import Rollup.Proofs.Sql.Grammar

/-!
# A reader of conditions

Signs are read as a condition in one way at most (`Reads.unique`).  A reader that takes them
one by one, and keeps on a stack what it has still to combine, finds that way wherever the
grammar has one: negations are applied as soon as their operand ends, conjunctions when
something binds less, disjunctions when a parenthesis is closed or nothing follows.
-/

namespace Rollup.Sql

/-! ## A reader -/

/-- What a reader has still to combine with what follows. -/
inductive Frame where
  | negation
  | conjunct (left : Condition (List Sign))
  | disjunct (left : Condition (List Sign))
  | group

/-- Where a reader stands: in front of an operand, in a predicate at a depth of
parentheses, or after an operand. -/
inductive ReaderState where
  | expecting (stack : List Frame)
  | within (stack : List Frame) (signs : List Sign) (depth : Nat)
  | complete (stack : List Frame) (condition : Condition (List Sign))

namespace ReaderState

/-- An operand under the negations in front of it. -/
def negated : List Frame → Condition (List Sign) → List Frame × Condition (List Sign)
  | .negation :: stack, condition => negated stack (.not condition)
  | stack, condition => (stack, condition)

/-- An operand with the conjunction that it ends. -/
def conjoined : List Frame → Condition (List Sign) → List Frame × Condition (List Sign)
  | .conjunct left :: stack, condition => conjoined stack (.and left condition)
  | stack, condition => (stack, condition)

/-- An operand with the conjunction and the disjunction that it ends. -/
def disjoined : List Frame → Condition (List Sign) → List Frame × Condition (List Sign)
  | .conjunct left :: stack, condition => disjoined stack (.and left condition)
  | .disjunct left :: stack, condition => disjoined stack (.or left condition)
  | stack, condition => (stack, condition)

/-- The operand that ends where a reader stands, if one can end there. -/
def settle : ReaderState → Option (List Frame × Condition (List Sign))
  | .within stack signs 0 => some (negated stack (.leaf signs))
  | .complete stack condition => some (stack, condition)
  | _ => none

/-- What ends a predicate outside its parentheses. -/
def endsPredicate (sign : Sign) : Bool :=
  sign.isKeyword "AND" || sign.isKeyword "OR" || sign == .mark ')'

/-- A sign after an operand. -/
def join (stack : List Frame) (condition : Condition (List Sign)) (sign : Sign) :
    Option ReaderState :=
  if sign.isKeyword "AND" then
    let (stack, condition) := conjoined stack condition
    some (.expecting (.conjunct condition :: stack))
  else if sign.isKeyword "OR" then
    let (stack, condition) := disjoined stack condition
    some (.expecting (.disjunct condition :: stack))
  else if sign = .mark ')' then
    match disjoined stack condition with
    | (.group :: stack, condition) =>
        let (stack, condition) := negated stack condition
        some (.complete stack condition)
    | _ => none
  else none

/-- One sign. -/
def step : ReaderState → Sign → Option ReaderState
  | .expecting stack, sign =>
      if sign.isKeyword "NOT" then some (.expecting (.negation :: stack))
      else if sign = .mark '(' then some (.expecting (.group :: stack))
      else if endsPredicate sign then none
      else some (.within stack [sign] 0)
  | .within stack signs 0, sign =>
      if endsPredicate sign then
        let (stack, condition) := negated stack (.leaf signs)
        join stack condition sign
      else (sign.nest 0).map (.within stack (signs ++ [sign]))
  | .within stack signs (depth + 1), sign =>
      (sign.nest (depth + 1)).map (.within stack (signs ++ [sign]))
  | .complete stack condition, sign => join stack condition sign

/-- The signs of some conditions, one after the other. -/
def run (state : ReaderState) (signs : List Sign) : Option ReaderState :=
  signs.foldlM step state

end ReaderState

/-- The condition that signs are read as. -/
def readCondition (signs : List Sign) : Option (Condition (List Sign)) :=
  ((ReaderState.expecting []).run signs).bind fun state =>
    state.settle.bind fun (stack, condition) =>
      match ReaderState.disjoined stack condition with
      | ([], condition) => some condition
      | _ => none

/-! ## Predicates on the stack -/

namespace ReaderState

variable {stack : List Frame} {before : List Sign}

@[simp]
theorem run_append (state : ReaderState) (first second : List Sign) :
    state.run (first ++ second) = (state.run first).bind fun next => next.run second :=
  List.foldlM_append

@[simp]
theorem run_cons (state : ReaderState) (sign : Sign) (rest : List Sign) :
    state.run (sign :: rest) = (step state sign).bind fun next => next.run rest :=
  List.foldlM_cons

/-- Whether a sign may stand in a predicate outside its parentheses. -/
def IsInner (sign : Sign) : Prop :=
  endsPredicate sign = false ∧ sign.nest 0 = some 0

theorem isKeyword_unique {sign : Sign} {first second : String}
    (named : sign.isKeyword first = true) (alsoNamed : sign.isKeyword second = true) :
    first = second := by
  cases sign with
  | word letters =>
      simp only [Sign.isKeyword, beq_iff_eq] at named alsoNamed
      exact String.toList_inj.mp (named.symm.trans alsoNamed)
  | _ => cases named

theorem isInner_of_isKeyword {sign : Sign} {keyword : String}
    (named : sign.isKeyword keyword = true) (other : keyword ≠ "AND" ∧ keyword ≠ "OR") :
    IsInner sign := by
  have noAnd : sign.isKeyword "AND" = false :=
    Bool.eq_false_iff.mpr fun and => other.1 (isKeyword_unique named and)
  have noOr : sign.isKeyword "OR" = false :=
    Bool.eq_false_iff.mpr fun or => other.2 (isKeyword_unique named or)
  cases sign with
  | word letters => exact ⟨by simp [endsPredicate, noAnd, noOr], rfl⟩
  | _ => cases named

theorem isInner_word {letters : List Char} (free : (Sign.word letters).isReserved = false) :
    IsInner (.word letters) := by
  simp only [Sign.isReserved, Sign.reserved, List.any_cons, Bool.or_eq_false_iff] at free
  exact ⟨by simp [endsPredicate, free.1, free.2.1], rfl⟩

theorem run_inner {signs : List Sign} (inner : ∀ sign ∈ signs, IsInner sign) :
    (within stack before 0).run signs = some (within stack (before ++ signs) 0) := by
  induction signs generalizing before with
  | nil => rw [List.append_nil]; rfl
  | cons sign rest inductionHypothesis =>
      rw [List.forall_mem_cons] at inner
      have stays : step (within stack before 0) sign =
          some (within stack (before ++ [sign]) 0) := by
        rw [step, if_neg (by simp [inner.1.1]), inner.1.2]
        rfl
      rw [run_cons, stays, Option.bind_some, inductionHypothesis inner.2, List.append_assoc,
        List.singleton_append]

theorem nest_succ {sign : Sign} {depth after : Nat} (nested : sign.nest depth = some after) :
    sign.nest (depth + 1) = some (after + 1) := by
  cases sign with
  | mark c => exact nestChar_succ nested
  | _ =>
      cases nested
      rfl

/-- Inside parentheses a predicate takes whatever keeps them open. -/
theorem run_nested {signs : List Sign} {depth after : Nat}
    (nested : signs.foldlM Sign.nest depth = some after) :
    (within stack before (depth + 1)).run signs =
      some (within stack (before ++ signs) (after + 1)) := by
  induction signs generalizing before depth with
  | nil =>
      cases nested
      rw [List.append_nil]
      rfl
  | cons sign rest inductionHypothesis =>
      rw [List.foldlM_cons] at nested
      obtain ⟨next, stepped, later⟩ := Option.bind_eq_some_iff.mp nested
      have stays : step (within stack before (depth + 1)) sign =
          some (within stack (before ++ [sign]) (next + 1)) := by
        rw [step, nest_succ stepped]
        rfl
      rw [run_cons, stays, Option.bind_some, inductionHypothesis later, List.append_assoc,
        List.singleton_append]

theorem run_call {letters : List Char} {arguments : List Sign}
    (free : (Sign.word letters).isReserved = false) (balanced : IsBalanced arguments) :
    (within stack before 0).run (.word letters :: .mark '(' :: arguments ++ [.mark ')']) =
      some (within stack
        (before ++ (.word letters :: .mark '(' :: arguments ++ [.mark ')'])) 0) := by
  have opened : (within stack before 0).run [.word letters, .mark '('] =
      some (within stack (before ++ [.word letters, .mark '(']) 1) := by
    have named : (within stack before 0).run [.word letters] =
        some (within stack (before ++ [.word letters]) 0) :=
      run_inner (List.forall_mem_singleton.mpr (isInner_word free))
    rw [show [Sign.word letters, .mark '('] = [.word letters] ++ [.mark '('] from rfl,
      run_append, named, Option.bind_some, ← List.append_assoc]
    rfl
  have parts : (.word letters :: .mark '(' :: arguments ++ [.mark ')'] : List Sign) =
      [.word letters, .mark '('] ++ (arguments ++ [.mark ')']) := by
    simp
  rw [parts, run_append, opened, Option.bind_some, run_append, run_nested balanced,
    Option.bind_some, ← List.append_assoc, ← List.append_assoc]
  rfl

theorem run_operand {signs : List Sign} (operand : IsOperand signs) :
    (within stack before 0).run signs = some (within stack (before ++ signs) 0) := by
  cases operand with
  | identifier name => exact run_inner (List.forall_mem_singleton.mpr ⟨rfl, rfl⟩)
  | string value => exact run_inner (List.forall_mem_singleton.mpr ⟨rfl, rfl⟩)
  | word free => exact run_inner (List.forall_mem_singleton.mpr (isInner_word free))
  | negative free =>
      exact run_inner (List.forall_mem_cons.mpr
        ⟨⟨rfl, rfl⟩, List.forall_mem_singleton.mpr (isInner_word free)⟩)
  | timestamp named value =>
      exact run_inner (List.forall_mem_cons.mpr
        ⟨isInner_of_isKeyword named (by decide), List.forall_mem_singleton.mpr ⟨rfl, rfl⟩⟩)
  | call free balanced => exact run_call free balanced

theorem run_comparison {signs : List Sign} (comparison : IsComparison signs) :
    (within stack before 0).run signs = some (within stack (before ++ signs) 0) := by
  cases comparison with
  | mark listed =>
      refine run_inner (List.forall_mem_singleton.mpr ?_)
      simp only [List.mem_cons, List.not_mem_nil, or_false] at listed
      rcases listed with rfl | rfl | rfl | rfl <;> exact ⟨rfl, rfl⟩
  | atLeast =>
      exact run_inner (List.forall_mem_cons.mpr
        ⟨⟨rfl, rfl⟩, List.forall_mem_singleton.mpr ⟨rfl, rfl⟩⟩)
  | regexp named =>
      exact run_inner (List.forall_mem_singleton.mpr (isInner_of_isKeyword named (by decide)))

theorem run_keyword {sign : Sign} {keyword : String} (named : sign.isKeyword keyword = true)
    (other : keyword ≠ "AND" ∧ keyword ≠ "OR") :
    (within stack before 0).run [sign] = some (within stack (before ++ [sign]) 0) :=
  run_inner (List.forall_mem_singleton.mpr (isInner_of_isKeyword named other))

/-- A predicate is taken as a whole. -/
theorem run_within_predicate {signs : List Sign} (predicate : IsPredicate signs) :
    (within stack before 0).run signs = some (within stack (before ++ signs) 0) := by
  have like {text pattern : List Sign} {keyword : Sign} (textOperand : IsOperand text)
      (named : keyword.isKeyword "LIKE" = true) (patternOperand : IsOperand pattern) :
      (within stack before 0).run (text ++ keyword :: pattern) =
        some (within stack (before ++ (text ++ keyword :: pattern)) 0) := by
    rw [run_append, run_operand textOperand, Option.bind_some, ← List.singleton_append, run_append,
      run_keyword named (by decide), Option.bind_some, run_operand patternOperand]
    simp
  cases predicate with
  | compare leftOperand comparison rightOperand =>
      rw [run_append, run_append, run_operand leftOperand, Option.bind_some,
        run_comparison comparison, Option.bind_some, run_operand rightOperand]
      simp
  | like textOperand named patternOperand => exact like textOperand named patternOperand
  | likeEscape textOperand named patternOperand escapeNamed value =>
      rw [run_append, like textOperand named patternOperand, Option.bind_some]
      refine (run_inner (List.forall_mem_cons.mpr
        ⟨isInner_of_isKeyword escapeNamed (by decide),
          List.forall_mem_singleton.mpr ⟨rfl, rfl⟩⟩)).trans ?_
      simp
  | call free balanced => exact run_call free balanced

/-- Whether a sign may start a predicate. -/
def Starts (sign : Sign) : Prop :=
  sign.isKeyword "NOT" = false ∧ sign ≠ .mark '(' ∧ endsPredicate sign = false

theorem starts_word {letters : List Char} (free : (Sign.word letters).isReserved = false) :
    Starts (.word letters) := by
  have inner := isInner_word free
  simp only [Sign.isReserved, Sign.reserved, List.any_cons, Bool.or_eq_false_iff] at free
  exact ⟨free.2.2.1, by simp, inner.1⟩

theorem operand_starts {signs : List Sign} (operand : IsOperand signs) :
    ∃ sign rest, signs = sign :: rest ∧ Starts sign := by
  cases operand with
  | identifier name => exact ⟨_, _, rfl, rfl, by simp, rfl⟩
  | string value => exact ⟨_, _, rfl, rfl, by simp, rfl⟩
  | word free => exact ⟨_, _, rfl, starts_word free⟩
  | negative free => exact ⟨_, _, rfl, rfl, by simp, rfl⟩
  | timestamp named value =>
      refine ⟨_, _, rfl, ?_, ?_, (isInner_of_isKeyword named (by decide)).1⟩
      · exact Bool.eq_false_iff.mpr fun negated =>
          absurd (isKeyword_unique named negated) (by decide)
      · rintro rfl
        cases named
  | call free balanced => exact ⟨_, _, rfl, starts_word free⟩

theorem predicate_starts {signs : List Sign} (predicate : IsPredicate signs) :
    ∃ sign rest, signs = sign :: rest ∧ Starts sign := by
  cases predicate with
  | compare leftOperand comparison rightOperand =>
      obtain ⟨sign, rest, rfl, starts⟩ := operand_starts leftOperand
      exact ⟨sign, _, rfl, starts⟩
  | like textOperand named patternOperand =>
      obtain ⟨sign, rest, rfl, starts⟩ := operand_starts textOperand
      exact ⟨sign, _, rfl, starts⟩
  | likeEscape textOperand named patternOperand escapeNamed value =>
      obtain ⟨sign, rest, rfl, starts⟩ := operand_starts textOperand
      exact ⟨sign, _, rfl, starts⟩
  | call free balanced => exact ⟨_, _, rfl, starts_word free⟩

theorem run_predicate {signs : List Sign} (predicate : IsPredicate signs) :
    (expecting stack).run signs = some (within stack signs 0) := by
  have taken : (within stack [] 0).run signs = some (within stack signs 0) :=
    run_within_predicate predicate
  obtain ⟨sign, rest, rfl, noNot, noGroup, stays⟩ := predicate_starts predicate
  have opened : step (expecting stack) sign = some (within stack [sign] 0) := by
    rw [step, if_neg (by simp [noNot]), if_neg noGroup, if_neg (by simp [stays])]
  have flat : sign.nest 0 = some 0 := by
    cases sign with
    | mark c =>
        refine nestChar_of_ne (fun opening => noGroup (congrArg Sign.mark opening)) ?_ 0
        rintro rfl
        cases stays
    | _ => rfl
  have same : step (within stack [] 0) sign = some (within stack [sign] 0) := by
    rw [step, if_neg (by simp [stays]), flat]
    rfl
  rw [run_cons, same] at taken
  rw [run_cons, opened]
  exact taken

/-! ## What is read -/

/-- A sign that ends predicates acts on the operand that ends in front of it. -/
theorem step_of_settle {state : ReaderState} {condition : Condition (List Sign)}
    (settled : state.settle = some (stack, condition)) {sign : Sign}
    (ends : endsPredicate sign = true) : step state sign = join stack condition sign := by
  match state with
  | .expecting _ => cases settled
  | .within outer signs 0 =>
      have operand : negated outer (.leaf signs) = (stack, condition) := Option.some.inj settled
      refine (if_pos ends).trans ?_
      rw [operand]
  | .within _ _ (_ + 1) => cases settled
  | .complete _ _ =>
      cases settled
      rfl

/-- Whether nothing waits on a stack but an open parenthesis. -/
def IsBase (stack : List Frame) : Prop :=
  stack = [] ∨ ∃ rest, stack = .group :: rest

/-- Whether nothing waits on a stack but an open parenthesis or a disjunction. -/
def IsDisjunctBase (stack : List Frame) : Prop :=
  IsBase stack ∨ ∃ left rest, stack = .disjunct left :: rest

theorem negated_of_base {stack : List Frame} (base : IsDisjunctBase stack)
    (condition : Condition (List Sign)) : negated stack condition = (stack, condition) := by
  rcases base with (rfl | ⟨_, rfl⟩) | ⟨_, _, rfl⟩ <;> rfl

theorem conjoined_of_base {stack : List Frame} (base : IsDisjunctBase stack)
    (condition : Condition (List Sign)) : conjoined stack condition = (stack, condition) := by
  rcases base with (rfl | ⟨_, rfl⟩) | ⟨_, _, rfl⟩ <;> rfl

theorem disjoined_of_base {stack : List Frame} (base : IsBase stack)
    (condition : Condition (List Sign)) : disjoined stack condition = (stack, condition) := by
  rcases base with rfl | ⟨_, rfl⟩ <;> rfl

theorem disjoined_conjoined (stack : List Frame) (condition : Condition (List Sign)) :
    disjoined (conjoined stack condition).1 (conjoined stack condition).2 =
      disjoined stack condition := by
  induction stack generalizing condition with
  | nil => rfl
  | cons frame rest inductionHypothesis =>
      cases frame with
      | conjunct left => exact inductionHypothesis (.and left condition)
      | _ => rfl

/-- What a reader has done after signs that are read as a condition. -/
def HasRead (binding : Binding) (signs : List Sign) (condition : Condition (List Sign)) :
    Prop :=
  match binding with
  | .negation => ∀ stack, ∃ state, (expecting stack).run signs = some state ∧
      state.settle = some (negated stack condition)
  | .conjunction => ∀ stack, IsDisjunctBase stack → ∃ state inner last,
      (expecting stack).run signs = some state ∧ state.settle = some (inner, last) ∧
        conjoined inner last = (stack, condition)
  | .disjunction => ∀ stack, IsBase stack → ∃ state inner last,
      (expecting stack).run signs = some state ∧ state.settle = some (inner, last) ∧
        disjoined inner last = (stack, condition)

theorem hasRead_group {signs : List Sign} {condition : Condition (List Sign)}
    (inner : HasRead .disjunction signs condition) :
    HasRead .negation (.mark '(' :: signs ++ [.mark ')']) condition := by
  intro stack
  obtain ⟨state, frames, last, ran, settled, combined⟩ :=
    inner (.group :: stack) (.inr ⟨stack, rfl⟩)
  have opened : step (expecting stack) (.mark '(') = some (expecting (.group :: stack)) := rfl
  have closed : join frames last (.mark ')') =
      some (complete (negated stack condition).1 (negated stack condition).2) := by
    simp [join, Sign.isKeyword, combined]
  refine ⟨complete (negated stack condition).1 (negated stack condition).2, ?_, rfl⟩
  rw [List.cons_append, run_cons, opened, Option.bind_some, run_append, ran, Option.bind_some,
    run_cons, step_of_settle settled rfl, closed]
  rfl

theorem hasRead_not {keyword : Sign} {signs : List Sign} {condition : Condition (List Sign)}
    (named : keyword.isKeyword "NOT" = true) (operand : HasRead .negation signs condition) :
    HasRead .negation (keyword :: signs) (.not condition) := by
  intro stack
  obtain ⟨state, ran, settled⟩ := operand (.negation :: stack)
  have opened : step (expecting stack) keyword = some (expecting (.negation :: stack)) :=
    if_pos named
  exact ⟨state, by rw [run_cons, opened]; exact ran, settled⟩

theorem hasRead_conjunct {signs : List Sign} {condition : Condition (List Sign)}
    (only : HasRead .negation signs condition) : HasRead .conjunction signs condition := by
  intro stack base
  obtain ⟨state, ran, settled⟩ := only stack
  rw [negated_of_base base] at settled
  exact ⟨state, stack, condition, ran, settled, conjoined_of_base base condition⟩

theorem hasRead_and {keyword : Sign} {left right : List Sign}
    {first second : Condition (List Sign)} (leftRead : HasRead .conjunction left first)
    (named : keyword.isKeyword "AND" = true) (rightRead : HasRead .negation right second) :
    HasRead .conjunction (left ++ keyword :: right) (.and first second) := by
  intro stack base
  obtain ⟨state, frames, last, ran, settled, combined⟩ := leftRead stack base
  obtain ⟨next, later, ended⟩ := rightRead (.conjunct first :: stack)
  have joined : join frames last keyword = some (expecting (.conjunct first :: stack)) := by
    rw [join, if_pos named, combined]
  refine ⟨next, .conjunct first :: stack, second, ?_, ended, ?_⟩
  · rw [run_append, ran, Option.bind_some, run_cons,
      step_of_settle settled (by simp [endsPredicate, named]), joined]
    exact later
  · exact conjoined_of_base base (.and first second)

theorem hasRead_disjunct {signs : List Sign} {condition : Condition (List Sign)}
    (only : HasRead .conjunction signs condition) : HasRead .disjunction signs condition := by
  intro stack base
  obtain ⟨state, frames, last, ran, settled, combined⟩ := only stack (.inl base)
  refine ⟨state, frames, last, ran, settled, ?_⟩
  rw [← disjoined_conjoined, combined]
  exact disjoined_of_base base condition

theorem hasRead_or {keyword : Sign} {left right : List Sign}
    {first second : Condition (List Sign)} (leftRead : HasRead .disjunction left first)
    (named : keyword.isKeyword "OR" = true) (rightRead : HasRead .conjunction right second) :
    HasRead .disjunction (left ++ keyword :: right) (.or first second) := by
  intro stack base
  obtain ⟨state, frames, last, ran, settled, combined⟩ := leftRead stack base
  obtain ⟨next, inner, final, later, ended, conjoins⟩ :=
    rightRead (.disjunct first :: stack) (.inr ⟨first, stack, rfl⟩)
  have noAnd : keyword.isKeyword "AND" = false :=
    Bool.eq_false_iff.mpr fun and => absurd (isKeyword_unique named and) (by decide)
  have joined : join frames last keyword = some (expecting (.disjunct first :: stack)) := by
    rw [join, if_neg (by simp [noAnd]), if_pos named, combined]
  refine ⟨next, inner, final, ?_, ended, ?_⟩
  · rw [run_append, ran, Option.bind_some, run_cons,
      step_of_settle settled (by simp [endsPredicate, named]), joined]
    exact later
  · rw [← disjoined_conjoined, conjoins]
    exact disjoined_of_base base (.or first second)

/-- Whatever signs are read as, the reader has read. -/
theorem hasRead_of_reads {binding : Binding} {signs : List Sign}
    {condition : Condition (List Sign)} (reads : Reads binding signs condition) :
    HasRead binding signs condition := by
  induction reads with
  | predicate shaped => exact fun stack => ⟨_, run_predicate shaped, rfl⟩
  | group _ inner => exact hasRead_group inner
  | not named _ operand => exact hasRead_not named operand
  | conjunct _ only => exact hasRead_conjunct only
  | and _ named _ left right => exact hasRead_and left named right
  | disjunct _ only => exact hasRead_disjunct only
  | or _ named _ left right => exact hasRead_or left named right

end ReaderState

/-- The reader finds how signs are read. -/
theorem Reads.readCondition_eq {signs : List Sign} {condition : Condition (List Sign)}
    (reads : Reads .disjunction signs condition) : readCondition signs = some condition := by
  obtain ⟨state, frames, last, ran, settled, combined⟩ :=
    ReaderState.hasRead_of_reads reads [] (.inl rfl)
  rw [readCondition, ran, Option.bind_some, settled, Option.bind_some]
  simp only [combined]

/-- Signs are read in one way at most. -/
theorem Reads.unique {signs : List Sign} {first second : Condition (List Sign)}
    (one : Reads .disjunction signs first) (other : Reads .disjunction signs second) :
    first = second :=
  Option.some.inj (one.readCondition_eq.symm.trans other.readCondition_eq)

/-- `AND` binds closer than `OR`, and `NOT` closest. -/
example :
    let call (function argument : Char) : Condition (List Sign) :=
      .leaf [.word [function], .mark '(', .word [argument], .mark ')']
    (Dialect.ansi.scan "f(x) OR NOT not g(y) AND h(z)").bind (fun lexemes =>
      readCondition (signs lexemes)) =
        some (.or (call 'f' 'x') (.and (.not (.not (call 'g' 'y'))) (call 'h' 'z'))) := by
  decide

end Rollup.Sql
