import Rollup.Double.Basic

/-!
# JSON values

The values of JSON documents.  Whole numbers and doubles stay apart, and the
entries of an object keep their order.
-/

namespace Rollup

/-- A JSON value. -/
inductive Json where
  | null
  | boolean (value : Bool)
  | integer (value : Int)
  | float (value : Double)
  | text (value : String)
  | list (items : List Json)
  | object (entries : List (String × Json))

instance : Inhabited Json := ⟨.null⟩

namespace Json

/-- The number of a double.  JSON has none for infinities and absent numbers, which
become null. -/
def ofDouble (value : Double) : Json :=
  if value.isFinite then .float value else .null

/-- The entry of a name in an object; of repeated names the last one counts. -/
def get? (json : Json) (name : String) : Option Json :=
  match json with
  | .object entries => (entries.reverse.find? fun entry => entry.1 == name).map Prod.snd
  | _ => none

end Json

end Rollup
