import Rollup.Document.Plain
import Rollup.Number
import Rollup.Query.Interval

/-!
# Decoders

How values of the usual types are read from documents.  A structure is read from a
map, whose unknown keys are passed over, or from a list of its fields in order.  A
tagged structure names its variant under the key `type` or as the first item of a
list; what stands inside it is resolved before it is read.

Three differences remain between the forms in which documents come; `Form` lists
them.
-/

namespace Rollup

/-- Why a document cannot be read as a type. -/
inductive DecodeFault where
  | malformed
  | interval (text : String) (fault : Interval.Fault)
  deriving DecidableEq

/-- The complaint about a document, where it has a wording of its own. -/
def DecodeFault.message? : DecodeFault → Option String
  | .malformed => none
  | .interval text fault => some (Interval.complaint text fault)

/-- A value read from a document, or the reason why there is none. -/
abbrev Decoded (α : Type) := Except DecodeFault α

namespace Document

/-- The form in which a document comes: JSON, YAML, or the inside of a tagged
structure, which is resolved. -/
inductive Form where
  | json
  | yaml
  | resolved
  deriving DecidableEq

namespace Form

/-- Whether a structure may be a list of its fields. -/
def allowsPositions (form : Form) : Bool :=
  form != .yaml

/-- Whether a bare variant may be the key of a map with an empty value. -/
def allowsVariantMaps (form : Form) : Bool :=
  form != .yaml

/-- Whether a name may be given by its position. -/
def allowsIndices (form : Form) : Bool :=
  form == .resolved

end Form

/-! ## Scalars -/

/-- A text; the text of a plain scalar is taken as it stands. -/
def toText (document : Document) : Decoded String :=
  match scalarText? document with
  | some value => .ok value
  | none => .error .malformed

/-- A value that may be null. -/
def toOptional {α : Type} (read : Document → Decoded α) : Document → Decoded (Option α)
  | .null => .ok none
  | .scalar none .plain value =>
      if isNullText value then .ok none else (read (.scalar none .plain value)).map some
  | .scalar (some .null) .plain value =>
      if !value.isEmpty && isNullText value then .ok none else .error .malformed
  | document => (read document).map some

/-- The first number that does not fit thirty-two bits. -/
def halfWordBound : Nat :=
  4294967296

/-- The first number that does not fit sixty-four bits. -/
def wordBound : Nat :=
  18446744073709551616

/-- The natural number that a document denotes.  A scalar denotes one if it is plain,
or a literal block with the tag of integers. -/
def natural? : Document → Option Nat
  | .natural value => some value
  | .negated 0 => some 0
  | .scalar tag style value =>
      if style = .plain ∨ (style = .literal ∧ tag = some .integer) then unsigned? value.toList
      else none
  | _ => none

/-- A natural number below a bound. -/
def toNatural (bound : Nat) (document : Document) : Decoded Nat :=
  match natural? document with
  | some value => if value < bound then .ok value else .error .malformed
  | none => .error .malformed

/-- A boolean. -/
def toBoolean : Document → Decoded Bool
  | .boolean value => .ok value
  | _ => .error .malformed

/-- The integer that a document is. -/
def integer? : Document → Option Int
  | .natural value => some value
  | .negated value => some (-(value : Int))
  | _ => none

/-- A number: a long where the document has an integer that is one, and a double
otherwise. -/
def toNumber (document : Document) : Decoded Number :=
  match document, integer? document with
  | _, some value =>
      match Long.ofInt? value with
      | some long => .ok (.integer long)
      | none => .ok (.float (Double.ofInt value))
  | .float value, none => .ok (.float value)
  | _, none => .error .malformed

/-- A double; any number is one. -/
def toDouble (document : Document) : Decoded Double :=
  match document, integer? document with
  | _, some value => .ok (Double.ofInt value)
  | .float value, none => .ok value
  | _, none => .error .malformed

/-- An interval. -/
def toInterval (document : Document) : Decoded Interval := do
  let text ← document.toText
  match Interval.ofText text with
  | .ok interval => return interval
  | .error fault => throw (.interval text fault)

/-! ## Lists and names -/

/-- Each item of a list, in order. -/
def readAll {α : Type} (read : Document → Decoded α) : List Document → Decoded (List α)
  | [] => .ok []
  | document :: rest => do
      let first ← read document
      return first :: (← readAll read rest)

/-- A list.  A plain scalar of no characters is the empty list. -/
def toList {α : Type} (read : Document → Decoded α) (document : Document) :
    Decoded (List α) :=
  match document.unlabelled with
  | .list items => readAll read items
  | .scalar _ .plain "" => .ok []
  | _ => .error .malformed

/-- The choice that a document names, if it names one of them. -/
def choice? {α : Type} (form : Form) (choices : List (String × α)) (document : Document) :
    Decoded (Option α) :=
  match document with
  | .text name => .ok (choices.lookup name)
  | .scalar _ _ name => .ok (choices.lookup name)
  | .natural index =>
      if form.allowsIndices then .ok (choices[index]?.map Prod.snd) else .error .malformed
  | _ => .error .malformed

/-- The choice that a document names. -/
def choice {α : Type} (form : Form) (choices : List (String × α)) (document : Document) :
    Decoded α := do
  match ← choice? form choices document with
  | some value => return value
  | none => throw .malformed

/-- Whether a document is the value of a bare variant. -/
def isUnit (form : Form) : Document → Bool
  | .null => true
  | .map [] => form == .resolved
  | _ => false

/-- One of some values by its name: the name itself, the one key of a map, or the tag
of a scalar that is null. -/
def toVariant {α : Type} (form : Form) (choices : List (String × α)) : Document → Decoded α
  | .map [(key, value)] =>
      if form.allowsVariantMaps && isUnit form value then choice form choices key
      else .error .malformed
  | .scalar (some (.named name)) style value =>
      if style = .plain ∧ isNullText value then choice form choices (.text name)
      else .error .malformed
  | .scalar _ _ name => choice form choices (.text name)
  | .text name => choice form choices (.text name)
  | _ => .error .malformed

/-! ## Structures -/

/-- Fields by their names, in the order in which a document gives them. -/
abbrev Given := List (String × Document)

/-- The fields among the entries of a map, none of which may come twice. -/
def fieldsOfEntries (form : Form) (names : List (String × String)) :
    List String → List (Document × Document) → Decoded Given
  | _, [] => .ok []
  | seen, (key, value) :: rest => do
      match ← choice? form names key with
      | none => fieldsOfEntries form names seen rest
      | some name =>
          if seen.contains name then throw .malformed
          return (name, value) :: (← fieldsOfEntries form names (name :: seen) rest)

/-- The fields of a structure with the given field names.  A plain scalar of no
characters has none. -/
def fields (form : Form) (names : List String) (document : Document) : Decoded Given :=
  match document.unlabelled with
  | .map entries => fieldsOfEntries form (names.map fun name => (name, name)) [] entries
  | .list items =>
      if form.allowsPositions && decide (items.length ≤ names.length) then
        .ok (names.zip items)
      else .error .malformed
  | .scalar _ .plain "" => .ok []
  | _ => .error .malformed

/-- A field that has to be given. -/
def required {α : Type} (given : Given) (name : String) (read : Document → Decoded α) :
    Decoded α :=
  match given.lookup name with
  | some document => read document
  | none => .error .malformed

/-- A field with a value for when it is not given. -/
def defaulted {α : Type} (given : Given) (name : String) (default : α)
    (read : Document → Decoded α) : Decoded α :=
  match given.lookup name with
  | some document => read document
  | none => .ok default

/-! ## Tagged structures -/

/-- The name of the variant among some entries, if it is there, as it stands, and all
other entries, resolved.  It must not come twice. -/
def splitVariant? : List (Document × Document) →
    Option (Option Document × List (Document × Document))
  | [] => some (none, [])
  | (key, value) :: rest => do
      let (variant, others) ← splitVariant? rest
      match ← resolve? key with
      | .text "type" => if variant.isSome then none else return (some value, others)
      | key => return (variant, (key, ← resolve? value) :: others)

/-- The variant that a tagged structure names, and its other fields, resolved. -/
def tagged {α : Type} (form : Form) (variants : List (String × α)) (document : Document) :
    Decoded (α × Document) := do
  match document with
  | .map entries =>
      match splitVariant? entries with
      | some (some variant, others) => return (← choice form variants variant, .map others)
      | _ => throw .malformed
  | .list (variant :: others) =>
      match resolveList? others with
      | some others => return (← choice form variants variant, .list others)
      | none => throw .malformed
  | _ => throw .malformed

end Document

end Rollup
