/-!
# Doubles

Binary floating-point numbers of 64 bits, kept as exact data: a finite double is
a sign, a significand below `2 ^ 53` and a power of two.  Every operation takes
the exact result, a ratio of natural numbers, and rounds it once to the nearest
double, a half going to the even neighbour.  Nothing here depends on the
machine's own arithmetic, so each value can be computed in a proof.
-/

namespace Rollup

/-- The one form in which a finite double is kept: fifty-three significant bits,
or fewer at the least exponent. -/
def Double.IsNormal (significand : Nat) (exponent : Int) : Prop :=
  significand < 9007199254740992 ∧ -1074 ≤ exponent ∧ exponent ≤ 971 ∧
    (4503599627370496 ≤ significand ∨ exponent = -1074)

instance (significand : Nat) (exponent : Int) :
    Decidable (Double.IsNormal significand exponent) :=
  inferInstanceAs (Decidable (_ ∧ _ ∧ _ ∧ _))

/-- A floating-point number of 64 bits.  A finite one is
`± significand * 2 ^ exponent`. -/
inductive Double where
  | nan
  | infinite (negative : Bool)
  | finite (negative : Bool) (significand : Nat) (exponent : Int)
      (normal : Double.IsNormal significand exponent)
  deriving DecidableEq

namespace Double

/-- The zero of a sign. -/
def zero (negative : Bool) : Double :=
  .finite negative 0 (-1074) (by decide)

instance : Inhabited Double := ⟨zero false⟩

/-! ## Rounding -/

/-- A ratio times `2 ^ (-exponent)`, as a ratio again. -/
def scaleDown (numerator denominator : Nat) (exponent : Int) : Nat × Nat :=
  if 0 ≤ exponent then (numerator, denominator * Nat.pow 2 exponent.toNat)
  else (numerator * Nat.pow 2 (-exponent).toNat, denominator)

/-- The exponent at which a positive ratio has a significand of fifty-three
bits, or the least exponent when it is too small for that. -/
def exponentFor (numerator denominator : Nat) : Int :=
  let guess : Int := numerator.log2 - denominator.log2 - 52
  let (n, d) := scaleDown numerator denominator guess
  max (if n / d < 4503599627370496 then guess - 1 else guess) (-1074)

/-- The natural number nearest to a ratio; a half goes to the even one. -/
def roundHalfEven (numerator denominator : Nat) : Nat :=
  let quotient := numerator / denominator
  let remainder := numerator % denominator
  if 2 * remainder < denominator then quotient
  else if denominator < 2 * remainder then quotient + 1
  else quotient + quotient % 2

/-- The finite double of a significand and an exponent; one that lies beyond the
greatest is infinite. -/
def pack (negative : Bool) (significand : Nat) (exponent : Int) : Double :=
  if normal : IsNormal significand exponent then
    .finite negative significand exponent normal
  else .infinite negative

/-- The double nearest to a ratio with a positive denominator. -/
def ofRatio (negative : Bool) (numerator denominator : Nat) : Double :=
  if numerator = 0 then zero negative
  else
    let exponent := exponentFor numerator denominator
    let (n, d) := scaleDown numerator denominator exponent
    let significand := roundHalfEven n d
    if significand = 9007199254740992 then pack negative 4503599627370496 (exponent + 1)
    else pack negative significand exponent

/-- The double nearest to `± significand * 2 ^ exponent`. -/
def ofScaled (negative : Bool) (significand : Nat) (exponent : Int) : Double :=
  let (n, d) := scaleDown significand 1 (-exponent)
  ofRatio negative n d

/-- The double nearest to an integer. -/
def ofInt (i : Int) : Double :=
  ofRatio (decide (i < 0)) i.natAbs 1

/-- The double nearest to `± significand * 10 ^ exponent`.  Where the logarithms
alone show that the number lies far beyond the greatest double, or far below the
least, the power of ten is not computed. -/
def ofDecimal (negative : Bool) (significand : Nat) (exponent : Int) : Double :=
  let magnitude : Int := (significand.log2 : Int) * 3 / 10 + exponent
  if significand = 0 then zero negative
  else if 312 < magnitude then .infinite negative
  else if 2 * (significand.log2 : Int) + 332 < -exponent then zero negative
  else if 0 ≤ exponent then ofRatio negative (significand * Nat.pow 10 exponent.toNat) 1
  else ofRatio negative significand (Nat.pow 10 (-exponent).toNat)

/-! ## Tests and parts -/

/-- Whether a double is one of the two zeros. -/
def isZero : Double → Bool
  | .finite _ 0 _ _ => true
  | _ => false

/-- Whether a double is neither infinite nor an absent number. -/
def isFinite : Double → Bool
  | .finite .. => true
  | _ => false

/-- An integer with a sign of its own, which zero has too. -/
def signed (negative : Bool) (magnitude : Nat) : Int :=
  if negative then -(magnitude : Int) else magnitude

/-- The integer part of a finite double, toward zero. -/
def integerPart (negative : Bool) (significand : Nat) (exponent : Int) : Int :=
  let (n, d) := scaleDown significand 1 (-exponent)
  signed negative (n / d)

/-! ## Arithmetic -/

/-- The double of the opposite sign. -/
def neg : Double → Double
  | .nan => .nan
  | .infinite negative => .infinite (!negative)
  | .finite negative significand exponent normal =>
      .finite (!negative) significand exponent normal

/-- The sum, rounded.  Opposite infinities have none, and two equal numbers of
opposite signs sum to the positive zero. -/
def add : Double → Double → Double
  | .nan, _ => .nan
  | _, .nan => .nan
  | .infinite a, .infinite b => if a = b then .infinite a else .nan
  | .infinite a, .finite .. => .infinite a
  | .finite .., .infinite b => .infinite b
  | .finite a m e _, .finite b n f _ =>
      let exponent := min e f
      let total :=
        signed a (m * Nat.pow 2 (e - exponent).toNat) +
          signed b (n * Nat.pow 2 (f - exponent).toNat)
      if total = 0 then zero (a && b)
      else ofScaled (decide (total < 0)) total.natAbs exponent

/-- The difference, rounded. -/
def sub (x y : Double) : Double :=
  x.add y.neg

/-- The product, rounded.  An infinity times zero has none. -/
def mul : Double → Double → Double
  | .nan, _ => .nan
  | _, .nan => .nan
  | .infinite a, .infinite b => .infinite (a ^^ b)
  | .infinite a, .finite b n _ _ => if n = 0 then .nan else .infinite (a ^^ b)
  | .finite a m _ _, .infinite b => if m = 0 then .nan else .infinite (a ^^ b)
  | .finite a m e _, .finite b n f _ => ofScaled (a ^^ b) (m * n) (e + f)

/-- The quotient, rounded.  Zero over zero and infinity over infinity have none;
any other number over zero is infinite. -/
def div : Double → Double → Double
  | .nan, _ => .nan
  | _, .nan => .nan
  | .infinite _, .infinite _ => .nan
  | .infinite a, .finite b _ _ _ => .infinite (a ^^ b)
  | .finite a _ _ _, .infinite b => zero (a ^^ b)
  | .finite a m e _, .finite b n f _ =>
      if n = 0 then if m = 0 then .nan else .infinite (a ^^ b)
      else
        let (scaled, unit) := scaleDown m n (f - e)
        ofRatio (a ^^ b) scaled unit

end Double

end Rollup
