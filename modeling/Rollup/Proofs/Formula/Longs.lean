import Mathlib.Algebra.BigOperators.Group.List.Basic
import Mathlib.Algebra.Ring.Int.Defs
import Mathlib.Data.List.Forall2
import Rollup.Proofs.Formula.Values

/-!
# Post-aggregations of longs

A checked post-aggregation that is not reported as a double is built of longs, sums,
differences and products alone.  Over longs it denotes an integer.  Its value is that integer
if the partial results of all its operations are longs; if one is not, it may be a double,
but never another long.  Without one of the longs it has no value.
-/

namespace Rollup

/-! ## Integers denoted -/

namespace ArithmeticOperator

/-- The sum, difference or product of integers.  Quotients, which are no integers, count as
zero. -/
def onIntegers : ArithmeticOperator → List Int → Int
  | .add, operands => operands.sum
  | .subtract, [] => 0
  | .subtract, first :: rest => first - rest.sum
  | .multiply, operands => operands.prod
  | .divide, _ => 0

/-- The results that an operation on integers passes through from the left: sums from zero,
products from one, and differences from the first integer. -/
def partialResults : ArithmeticOperator → List Int → List Int
  | .add, operands => operands.scanl (· + ·) 0
  | .subtract, [] => []
  | .subtract, first :: rest => rest.scanl (· - ·) first
  | .multiply, operands => operands.scanl (· * ·) 1
  | .divide, _ => []

theorem foldl_subtract (first : Int) (rest : List Int) :
    rest.foldl (· - ·) first = first - rest.sum := by
  induction rest generalizing first with
  | nil => simp
  | cons second rest inductionHypothesis =>
      rw [List.foldl_cons, inductionHypothesis, List.sum_cons]
      omega

theorem start_mem_scanl {α β : Type} {f : β → α → β} {start : β} {items : List α} :
    start ∈ items.scanl f start := by
  cases items with
  | nil => exact List.mem_singleton_self start
  | cons item items =>
      rw [List.scanl_cons]
      exact List.mem_cons_self

end ArithmeticOperator

namespace PostAggregation

mutual

/-- The integer that a post-aggregation denotes over longs.  Where doubles would come in, at
constants, quotients and operations on sketches, it counts as zero. -/
def integerOf (values : String → Long) : PostAggregation → Int
  | .constant _ (.integer value) => value.toInt
  | .constant _ (.float _) => 0
  | .field aggregation => (values aggregation).toInt
  | .arithmetic _ operator fields => operator.onIntegers (integersOf values fields)
  | .sketchEstimate .. => 0
  | .sketchOperation .. => 0
termination_by structural post => post

/-- The integers that some post-aggregations denote over longs. -/
def integersOf (values : String → Long) : List PostAggregation → List Int
  | [] => []
  | post :: rest => integerOf values post :: integersOf values rest
termination_by structural posts => posts

end

mutual

/-- The partial results of all operations of a post-aggregation over longs. -/
def intermediates (values : String → Long) : PostAggregation → List Int
  | .arithmetic _ operator fields =>
      intermediatesOfList values fields ++ operator.partialResults (integersOf values fields)
  | _ => []
termination_by structural post => post

/-- The partial results of all operations of some post-aggregations over longs. -/
def intermediatesOfList (values : String → Long) : List PostAggregation → List Int
  | [] => []
  | post :: rest => intermediates values post ++ intermediatesOfList values rest
termination_by structural posts => posts

end

@[simp]
theorem integersOf_eq_map (values : String → Long) (posts : List PostAggregation) :
    integersOf values posts = posts.map (integerOf values) := by
  induction posts with
  | nil => rfl
  | cons post rest inductionHypothesis => rw [integersOf, inductionHypothesis, List.map_cons]

@[simp]
theorem intermediatesOfList_eq_flatMap (values : String → Long) (posts : List PostAggregation) :
    intermediatesOfList values posts = posts.flatMap (intermediates values) := by
  induction posts with
  | nil => rfl
  | cons post rest inductionHypothesis =>
      rw [intermediatesOfList, inductionHypothesis, List.flatMap_cons]

/-- Whether all partial results of a post-aggregation over longs are longs. -/
def StaysLong (values : String → Long) (post : PostAggregation) : Prop :=
  ∀ i ∈ post.intermediates values, Long.Fits i

instance (values : String → Long) (post : PostAggregation) : Decidable (post.StaysLong values) :=
  inferInstanceAs (Decidable (∀ i ∈ _, _))

/-- An operation stays long if its operands and its own partial results do. -/
theorem staysLong_arithmetic_iff {values : String → Long} {name : String}
    {operator : ArithmeticOperator} {fields : List PostAggregation} :
    (arithmetic name operator fields).StaysLong values ↔
      (∀ field ∈ fields, field.StaysLong values) ∧
        ∀ i ∈ operator.partialResults (fields.map (integerOf values)), Long.Fits i := by
  unfold StaysLong
  rw [intermediates, List.forall_mem_append, intermediatesOfList_eq_flatMap,
    List.forall_mem_flatMap, integersOf_eq_map]

/-! ## Post-aggregations that are not reported as doubles -/

@[simp]
theorem anyFloat_eq_false_iff {query : Query} {posts : List PostAggregation} :
    anyFloat query posts = false ↔ ∀ post ∈ posts, post.isFloat query = false := by
  induction posts with
  | nil => simp [anyFloat]
  | cons post rest inductionHypothesis =>
      rw [anyFloat, Bool.or_eq_false_iff, inductionHypothesis, List.forall_mem_cons]

/-- What holds of every long and every field, and of sums, differences and products as soon
as it holds of the operands, holds of every checked post-aggregation that is not reported as
a double. -/
@[elab_as_elim]
theorem long_induction {query : Query} {motive : PostAggregation → Prop}
    (constant : ∀ name value, motive (.constant name (.integer value)))
    (field : ∀ aggregation, motive (.field aggregation))
    (arithmetic : ∀ name operator fields, operator ≠ .divide → fields ≠ [] →
      (∀ field ∈ fields, motive field) → motive (.arithmetic name operator fields))
    (post : PostAggregation) (checked : post.validate query = .ok ())
    (long : post.isFloat query = false) : motive post := by
  revert long
  refine checked_induction ?constant ?field ?arithmetic ?sketchEstimate ?sketchOperation
    post checked
  case constant =>
    intro name value long
    cases value with
    | integer value => exact constant name value
    | float value => cases long
  case field =>
    intro aggregation _ _
    exact field aggregation
  case arithmetic =>
    intro name operator fields arity operands long
    obtain ⟨noQuotient, fieldsLong⟩ := Bool.or_eq_false_iff.mp long
    apply arithmetic
    · simpa using noQuotient
    · rintro rfl
      exact (arityError?_eq_none_iff.mp arity).1 rfl
    · intro field listed
      exact operands field listed (anyFloat_eq_false_iff.mp fieldsLong field listed)
  case sketchEstimate =>
    intro name operand _ long
    cases long
  case sketchOperation =>
    intro name operator operand size _ _ long
    cases long

end PostAggregation

/-! ## Operations on numbers -/

@[simp]
theorem Arithmetic.present_map_some {α : Type} (values : List α) :
    present (values.map some) = some values := by
  induction values with
  | nil => rfl
  | cons value rest inductionHypothesis =>
      rw [List.map_cons, present, inductionHypothesis]
      rfl

/-- An operation other than a quotient has no result without one of its operands. -/
theorem Arithmetic.apply_eq_none {α : Type} (arithmetic : Arithmetic α)
    {operator : ArithmeticOperator} (noQuotient : operator ≠ .divide)
    {operands : List (Option α)} (absent : none ∈ operands) :
    arithmetic.apply operator operands = none := by
  have incomplete : present operands = none := by
    induction operands with
    | nil => cases absent
    | cons operand rest inductionHypothesis =>
        cases operand with
        | none => rfl
        | some value =>
            have later : none ∈ rest := by simpa using absent
            rw [present, inductionHypothesis later]
            rfl
  cases operator with
  | divide => contradiction
  | _ =>
      rw [apply, incomplete]
      rfl

namespace Number

/-- Whether a number is an integer, or is a double because a condition fails. -/
inductive Tracks (exact : Int) (condition : Prop) : Number → Prop
  | integer {value : Long} (equal : value.toInt = exact) : Tracks exact condition (.integer value)
  | float {value : Double} (fails : ¬ condition) : Tracks exact condition (.float value)

namespace Tracks

variable {exact : Int} {condition : Prop} {number : Number}

/-- A number is a double as well where more than the condition fails. -/
theorem mono {stronger : Prop} (tracks : Tracks exact condition number)
    (implies : stronger → condition) : Tracks exact stronger number := by
  cases tracks with
  | integer equal => exact .integer equal
  | float fails => exact .float (mt implies fails)

theorem eq_integer (tracks : Tracks exact condition number) (holds : condition) :
    ∃ value : Long, number = .integer value ∧ value.toInt = exact := by
  cases tracks with
  | integer equal => exact ⟨_, rfl, equal⟩
  | float fails => contradiction

/-- A number is a double where the integer is no long. -/
theorem eq_float (tracks : Tracks exact condition number) (beyond : ¬ Long.Fits exact) :
    ∃ value : Double, number = .float value := by
  cases tracks with
  | integer equal => exact absurd (equal ▸ Long.fits_toInt _) beyond
  | float fails => exact ⟨_, rfl⟩

variable (onIntegers : Int → Int → Int) (rounded : Double → Double → Double)

/-- An operation on two numbers is that on the integers, as long as its result is a long. -/
theorem combine {otherExact : Int} {otherCondition : Prop} {other : Number}
    (left : Tracks exact condition number) (right : Tracks otherExact otherCondition other) :
    Tracks (onIntegers exact otherExact)
      (condition ∧ otherCondition ∧ Long.Fits (onIntegers exact otherExact))
      (Number.combine onIntegers rounded number other) := by
  cases left with
  | float fails => exact .float fun all => fails all.1
  | integer leftEqual =>
      cases right with
      | float fails => exact .float fun all => fails all.2.1
      | integer rightEqual =>
          rw [Number.combine, leftEqual, rightEqual]
          cases result : Long.ofInt? (onIntegers exact otherExact) with
          | some value => exact .integer (Long.ofInt?_eq_some_iff.mp result)
          | none =>
              apply Tracks.float
              rintro ⟨_, _, fits⟩
              rw [Long.ofInt?, if_pos fits] at result
              cases result

variable {α : Type} {integer : α → Int} {fits : α → Prop}

/-- A fold of numbers is that of the integers, as long as all partial results are longs. -/
theorem foldl {items : List α} {numbers : List Number}
    (started : Tracks exact condition number)
    (each : List.Forall₂ (fun item => Tracks (integer item) (fits item)) items numbers) :
    Tracks ((items.map integer).foldl onIntegers exact)
      (condition ∧ (∀ item ∈ items, fits item) ∧
        ∀ i ∈ (items.map integer).scanl onIntegers exact, Long.Fits i)
      (numbers.foldl (Number.combine onIntegers rounded) number) := by
  induction each generalizing exact condition number with
  | nil => exact started.mono And.left
  | cons first _ inductionHypothesis =>
      refine (inductionHypothesis (started.combine onIntegers rounded first)).mono ?_
      rintro ⟨holds, fitting, passed⟩
      rw [List.map_cons, List.scanl_cons, List.forall_mem_cons] at passed
      rw [List.forall_mem_cons] at fitting
      have stepFits := passed.2 _ ArithmeticOperator.start_mem_scanl
      exact ⟨⟨holds, fitting.1, stepFits⟩, fitting.2, passed.2⟩

end Tracks

/-- An operation on numbers that are integers, or doubles because conditions fail, is that on
the integers, or a double because a condition fails or a partial result is no long. -/
theorem exists_apply_tracks {α : Type} {integer : α → Int} {fits : α → Prop} {items : List α}
    {numbers : List Number} {operator : ArithmeticOperator} (noQuotient : operator ≠ .divide)
    (nonempty : items ≠ [])
    (each : List.Forall₂ (fun item => Tracks (integer item) (fits item)) items numbers) :
    ∃ number, arithmetic.apply operator (numbers.map some) = some number ∧
      Tracks (operator.onIntegers (items.map integer))
        ((∀ item ∈ items, fits item) ∧
          ∀ i ∈ operator.partialResults (items.map integer), Long.Fits i) number := by
  have all := Arithmetic.present_map_some numbers
  cases operator with
  | divide => contradiction
  | add =>
      have started : Tracks 0 True arithmetic.zero := .integer rfl
      have folded := started.foldl (· + ·) Double.add each
      rw [← List.sum_eq_foldl] at folded
      refine ⟨_, ?_, folded.mono (And.intro trivial)⟩
      rw [Arithmetic.apply, all]
      rfl
  | multiply =>
      have started : Tracks 1 True arithmetic.one := .integer rfl
      have folded := started.foldl (· * ·) Double.mul each
      rw [← List.prod_eq_foldl] at folded
      refine ⟨_, ?_, folded.mono (And.intro trivial)⟩
      rw [Arithmetic.apply, all]
      rfl
  | subtract =>
      cases each with
      | nil => contradiction
      | @cons item number items numbers first others =>
          have folded := first.foldl (· - ·) Double.sub others
          rw [ArithmeticOperator.foldl_subtract] at folded
          refine ⟨_, ?_, folded.mono fun fitting => ?_⟩
          · rw [Arithmetic.apply, all]
            rfl
          · obtain ⟨operands, passed⟩ := fitting
            rw [List.forall_mem_cons] at operands
            exact ⟨operands.1, operands.2, passed⟩

end Number

/-! ## Values -/

theorem exists_map_eq_map_some {α β : Type} {f : α → Option β} {R : α → β → Prop}
    {items : List α} (each : ∀ item ∈ items, ∃ result, f item = some result ∧ R item result) :
    ∃ results, items.map f = results.map some ∧ List.Forall₂ R items results := by
  induction items with
  | nil => exact ⟨[], rfl, .nil⟩
  | cons item items inductionHypothesis =>
      obtain ⟨⟨result, found, related⟩, others⟩ := List.forall_mem_cons.mp each
      obtain ⟨results, mapped, allRelated⟩ := inductionHypothesis others
      refine ⟨result :: results, ?_, .cons related allRelated⟩
      rw [List.map_cons, List.map_cons, found, mapped]

namespace PostAggregation

variable {query : Query} {post : PostAggregation} (checked : post.validate query = .ok ())
  (long : post.isFloat query = false)
include checked long

/-- Over longs a post-aggregation that is not reported as a double has the integer that it
denotes as its value, or a double because a partial result is no long. -/
theorem exists_valueOf_tracks (values : String → Long) :
    ∃ number, Number.arithmetic.valueOf (fun name => some (.integer (values name))) post =
        some number ∧ number.Tracks (post.integerOf values) (post.StaysLong values) := by
  refine long_induction ?constant ?field ?arithmetic post checked long
  case constant =>
    intro name value
    exact ⟨_, rfl, .integer rfl⟩
  case field =>
    intro aggregation
    exact ⟨_, rfl, .integer rfl⟩
  case arithmetic =>
    intro name operator fields noQuotient nonempty operands
    obtain ⟨numbers, computed, each⟩ := exists_map_eq_map_some operands
    obtain ⟨number, applied, tracks⟩ := Number.exists_apply_tracks noQuotient nonempty each
    refine ⟨number, ?_, ?_⟩
    · rw [Arithmetic.valueOf, Arithmetic.valuesOf_eq_map, computed, applied]
    · rw [integerOf, integersOf_eq_map]
      exact tracks.mono staysLong_arithmetic_iff.mp

/-- A post-aggregation that is not reported as a double has no value without one of the
aggregations that it refers to. -/
theorem valueOf_eq_none {values : String → Option Number} :
    (∃ aggregation ∈ post.references, values aggregation = none) →
      Number.arithmetic.valueOf values post = none := by
  refine long_induction ?constant ?field ?arithmetic post checked long
  case constant =>
    rintro name value ⟨aggregation, referred, _⟩
    cases referred
  case field =>
    rintro other ⟨aggregation, referred, absent⟩
    cases List.mem_singleton.mp referred
    exact absent
  case arithmetic =>
    rintro name operator fields noQuotient _ operands ⟨aggregation, referred, absent⟩
    rw [Arithmetic.valueOf, Arithmetic.valuesOf_eq_map]
    apply Number.arithmetic.apply_eq_none noQuotient
    rw [references, referencesOfList_eq_flatMap, List.mem_flatMap] at referred
    obtain ⟨field, listed, referred⟩ := referred
    exact List.mem_map.mpr ⟨field, listed, operands field listed ⟨aggregation, referred, absent⟩⟩

end PostAggregation

end Rollup
