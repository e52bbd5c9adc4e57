import Rollup.Text.Digits

/-!
# Longs

Whole numbers of sixty-four bits with a sign, the integers of queries and of
result cells.  Arithmetic on them is done on unbounded integers; what does not
fit is for the caller to decide.
-/

namespace Rollup

/-- A whole number from -9223372036854775808 to 9223372036854775807. -/
abbrev Long := Int64

namespace Long

/-- Whether an integer is a long. -/
def Fits (i : Int) : Prop :=
  -9223372036854775808 ≤ i ∧ i < 9223372036854775808

instance (i : Int) : Decidable (Fits i) :=
  inferInstanceAs (Decidable (_ ∧ _))

/-- The least long. -/
def least : Long :=
  -9223372036854775808

/-- The greatest long. -/
def greatest : Long :=
  9223372036854775807

/-- Whether an integer fits sixty-four bits, with or without a sign. -/
def fitsWord (i : Int) : Bool :=
  -9223372036854775808 ≤ i && i < 18446744073709551616

/-- The long equal to an integer, if there is one. -/
def ofInt? (i : Int) : Option Long :=
  if Fits i then some (Int64.ofInt i) else none

/-- The long nearest to an integer: one beyond the range becomes the end of the
range that it lies beyond. -/
def clamp (i : Int) : Long :=
  Int64.ofInt (max (-9223372036854775808) (min i 9223372036854775807))

/-- The long that an optional sign and digits denote, if it is one. -/
def ofText? (text : List Char) : Option Long :=
  (Text.integer? text).bind ofInt?

/-- The decimal text of a long. -/
def text (value : Long) : String :=
  Text.integerText value.toInt

theorem toInt_ofInt {i : Int} (fits : Fits i) : (Int64.ofInt i).toInt = i :=
  Int64.toInt_ofInt_of_le fits.1 fits.2

theorem fits_toInt (value : Long) : Fits value.toInt :=
  ⟨Int64.le_toInt value, Int64.toInt_lt value⟩

@[simp]
theorem ofInt?_toInt (value : Long) : ofInt? value.toInt = some value := by
  simp [ofInt?, fits_toInt]

theorem ofInt?_eq_some_iff {i : Int} {value : Long} :
    ofInt? i = some value ↔ value.toInt = i := by
  constructor
  · intro found
    unfold ofInt? at found
    split at found
    · next fits =>
        cases found
        exact toInt_ofInt fits
    · cases found
  · rintro rfl
    exact ofInt?_toInt value

end Long

end Rollup
