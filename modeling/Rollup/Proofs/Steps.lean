import Mathlib.Data.List.Forall2

/-!
# Steps that may fail

A computation in steps ends well exactly when each step does.  These rules take such a
computation apart, one step at a time.
-/

namespace Rollup

variable {ε α β : Type}

@[simp]
theorem pure_eq_ok_iff {value result : α} :
    (pure value : Except ε α) = .ok result ↔ value = result :=
  Except.ok.injEq value result ▸ Iff.rfl

/-- Two steps end well exactly when the first does and the second does on its result. -/
theorem bind_eq_ok_iff {step : Except ε α} {next : α → Except ε β} {result : β} :
    step >>= next = .ok result ↔ ∃ value, step = .ok value ∧ next value = .ok result := by
  cases step with
  | error fault =>
      constructor
      · intro ended
        cases ended
      · rintro ⟨_, ended, _⟩
        cases ended
  | ok value =>
      constructor
      · intro ended
        exact ⟨value, rfl, ended⟩
      · rintro ⟨_, same, ended⟩
        cases same
        exact ended

/-- A step without a result in front of another ends well exactly when both do. -/
theorem andThen_eq_ok_iff {step : Except ε Unit} {rest : Except ε β} {result : β} :
    (step >>= fun _ => rest) = .ok result ↔ step = .ok () ∧ rest = .ok result := by
  rw [bind_eq_ok_iff]
  constructor
  · rintro ⟨_, ended, later⟩
    exact ⟨ended, later⟩
  · rintro ⟨ended, later⟩
    exact ⟨(), ended, later⟩

theorem map_eq_ok_iff {step : Except ε α} {next : α → β} {result : β} :
    step.map next = .ok result ↔ ∃ value, step = .ok value ∧ next value = result := by
  cases step <;> simp [Except.map]

/-- A check in front of a computation ends well exactly when it finds no fault. -/
theorem check_eq_ok_iff {fault : Prop} [Decidable fault] {error : ε} {step : Unit → Except ε β}
    {rest : Except ε β} {result : β} :
    (if fault then (throw error : Except ε Unit) >>= step else rest) = .ok result ↔
      ¬ fault ∧ rest = .ok result := by
  by_cases found : fault
  · rw [if_pos found]
    constructor
    · intro ended
      cases ended
    · intro ended
      exact absurd found ended.1
  · rw [if_neg found]
    simp [found]

@[simp]
theorem toOption_eq_some_iff {step : Except ε α} {result : α} :
    step.toOption = some result ↔ step = .ok result := by
  cases step <;> simp [Except.toOption]

/-- Items that are computed in order, each by a step that may fail, end well exactly with the
results of the steps. -/
theorem forall₂_of_collected {step : α → Except ε β} (collect : List α → Except ε (List β))
    (collectNil : collect [] = .ok [])
    (collectCons : ∀ item rest, collect (item :: rest) =
      step item >>= fun first => collect rest >>= fun others => .ok (first :: others))
    {items : List α} {results : List β} (ended : collect items = .ok results) :
    List.Forall₂ (fun item result => step item = .ok result) items results := by
  induction items generalizing results with
  | nil =>
      rw [collectNil] at ended
      cases ended
      exact .nil
  | cons item rest inductionHypothesis =>
      rw [collectCons] at ended
      obtain ⟨first, firstEnded, remaining⟩ := bind_eq_ok_iff.mp ended
      obtain ⟨others, othersEnded, built⟩ := bind_eq_ok_iff.mp remaining
      cases built
      exact .cons firstEnded (inductionHypothesis othersEnded)

/-- Where items and results are related one by one, every result is related to an item. -/
theorem exists_item_of_forall₂ {R : α → β → Prop} {items : List α} {results : List β}
    (related : List.Forall₂ R items results) {result : β} (member : result ∈ results) :
    ∃ item ∈ items, R item result := by
  induction related with
  | nil => cases member
  | @cons item first _ _ relatedFirst _ inductionHypothesis =>
      rcases List.mem_cons.mp member with rfl | later
      · exact ⟨item, List.mem_cons_self, relatedFirst⟩
      · obtain ⟨found, listed, relatedFound⟩ := inductionHypothesis later
        exact ⟨found, List.mem_cons_of_mem _ listed, relatedFound⟩

/-- What holds of whatever comes of each item holds of each result. -/
theorem forall_results_of_forall₂ {step : α → Except ε β} {P : β → Prop} {items : List α}
    {results : List β}
    (ended : List.Forall₂ (fun item result => step item = .ok result) items results)
    (each : ∀ item ∈ items, ∀ {result}, step item = .ok result → P result) :
    ∀ result ∈ results, P result := by
  intro result member
  obtain ⟨item, listed, found⟩ := exists_item_of_forall₂ ended member
  exact each item listed found

/-- Where each item has a value that its result has too, the results have the values of the
items. -/
theorem map_results_eq {γ : Type} {step : α → Except ε β} {value : α → γ} {valueOfResult : β → γ}
    {items : List α} {results : List β}
    (ended : List.Forall₂ (fun item result => step item = .ok result) items results)
    (each : ∀ item ∈ items, ∀ {result}, step item = .ok result →
      valueOfResult result = value item) :
    results.map valueOfResult = items.map value := by
  induction ended with
  | nil => rfl
  | cons found _ inductionHypothesis =>
      rw [List.forall_mem_cons] at each
      rw [List.map_cons, List.map_cons, each.1 found, inductionHypothesis each.2]

/-- Every item that is computed well has a result. -/
theorem exists_result_of_mem {step : α → Except ε β} {items : List α} {results : List β}
    (ended : List.Forall₂ (fun item result => step item = .ok result) items results)
    {item : α} (member : item ∈ items) : ∃ result, step item = .ok result := by
  induction ended with
  | nil => cases member
  | @cons first result _ _ found _ inductionHypothesis =>
      rcases List.mem_cons.mp member with rfl | later
      · exact ⟨result, found⟩
      · exact inductionHypothesis later

/-! ## Failures -/

/-- Whether a computation, if it fails, fails with an error of some kind. -/
def FailsOnlyWith (kind : ε → Prop) (step : Except ε α) : Prop :=
  ∀ error, step = .error error → kind error

namespace FailsOnlyWith

variable {kind : ε → Prop}

theorem ok (value : α) : FailsOnlyWith kind (.ok value : Except ε α) := by
  intro _ ended
  cases ended

theorem error {error : ε} (known : kind error) :
    FailsOnlyWith kind (.error error : Except ε α) := by
  rintro _ ⟨⟩
  exact known

theorem bind {step : Except ε α} {next : α → Except ε β} (first : FailsOnlyWith kind step)
    (later : ∀ value, step = .ok value → FailsOnlyWith kind (next value)) :
    FailsOnlyWith kind (step >>= next) := by
  cases step with
  | error error =>
      rintro _ ⟨⟩
      exact first error rfl
  | ok value => exact later value rfl

theorem check {fault : Prop} [Decidable fault] {error : ε} {step : Unit → Except ε β}
    {rest : Except ε β} (known : kind error) (later : ¬ fault → FailsOnlyWith kind rest) :
    FailsOnlyWith kind (if fault then (throw error : Except ε Unit) >>= step else rest) := by
  by_cases found : fault
  · rw [if_pos found]
    exact .error known
  · rw [if_neg found]
    exact later found

theorem map {step : Except ε α} (first : FailsOnlyWith kind step) (next : α → β) :
    FailsOnlyWith kind (step.map next) := by
  cases step with
  | error error =>
      rintro _ ⟨⟩
      exact first error rfl
  | ok value => exact .ok (next value)

/-- Items that are computed in order fail only as one of them does. -/
theorem collected {step : α → Except ε β} (collect : List α → Except ε (List β))
    (collectNil : collect [] = .ok [])
    (collectCons : ∀ item rest, collect (item :: rest) =
      step item >>= fun first => collect rest >>= fun others => .ok (first :: others))
    {items : List α} (each : ∀ item ∈ items, FailsOnlyWith kind (step item)) :
    FailsOnlyWith kind (collect items) := by
  induction items with
  | nil =>
      rw [collectNil]
      exact .ok []
  | cons item rest inductionHypothesis =>
      rw [List.forall_mem_cons] at each
      rw [collectCons]
      refine each.1.bind fun first _ => ?_
      exact (inductionHypothesis each.2).bind fun others _ => .ok (first :: others)

end FailsOnlyWith

/-! ## First failures -/

/-- The error that a computation fails with, if it fails. -/
def failure? : Except ε α → Option ε
  | .ok _ => none
  | .error error => some error

@[simp]
theorem failure?_eq_some_iff {step : Except ε α} {error : ε} :
    failure? step = some error ↔ step = .error error := by
  cases step <;> simp [failure?]

@[simp]
theorem failure?_eq_none_iff {step : Except ε α} :
    failure? step = none ↔ ∃ result, step = .ok result := by
  cases step <;> simp [failure?]

/-- Of two steps the first one that fails is the failure. -/
theorem failure?_bind {step : Except ε α} {next : α → Except ε β} {later : Option ε}
    (follows : ∀ value, failure? (next value) = later) :
    failure? (step >>= next) = (failure? step).or later := by
  cases step with
  | error error => rfl
  | ok value => exact follows value

/-- Where nothing can fail after a step, its failure is the only one. -/
theorem failure?_bind_of_ok {step : Except ε α} {next : α → Except ε β}
    (succeeds : ∀ value, failure? (next value) = none) :
    failure? (step >>= next) = failure? step := by
  rw [failure?_bind succeeds, Option.or_none]

theorem failure?_check {fault : Prop} [Decidable fault] {error : ε} {step : Unit → Except ε β}
    {rest : Except ε β} :
    failure? (if fault then (throw error : Except ε Unit) >>= step else rest) =
      (if fault then some error else none).or (failure? rest) := by
  by_cases found : fault
  · rw [if_pos found, if_pos found]
    rfl
  · rw [if_neg found, if_neg found, Option.none_or]

/-- The first fault of a node and those that follow it. -/
theorem findSome?_cons_eq_or {fault? : α → Option β} (node : α) (later : List α) :
    (node :: later).findSome? fault? = (fault? node).or (later.findSome? fault?) := by
  rw [List.findSome?_cons]
  cases fault? node <;> rfl

/-- Items that are computed in order, each failing with the first fault among its nodes, fail
with the first fault among the nodes of all of them. -/
theorem failure?_collected {ν : Type} {step : α → Except ε β}
    (collect : List α → Except ε (List β)) (collectNil : collect [] = .ok [])
    (collectCons : ∀ item rest, collect (item :: rest) =
      step item >>= fun first => collect rest >>= fun others => .ok (first :: others))
    {nodes : α → List ν} {fault? : ν → Option ε} {items : List α}
    (each : ∀ item ∈ items, failure? (step item) = (nodes item).findSome? fault?) :
    failure? (collect items) = (items.flatMap nodes).findSome? fault? := by
  induction items with
  | nil =>
      rw [collectNil]
      rfl
  | cons item rest inductionHypothesis =>
      rw [List.forall_mem_cons] at each
      rw [collectCons, List.flatMap_cons, List.findSome?_append, ← each.1,
        ← inductionHypothesis each.2]
      apply failure?_bind
      intro first
      apply failure?_bind_of_ok
      intro others
      rfl

/-! ## Two computations -/

/-- Two computations end alike: with the same error, or with results that are related. -/
inductive EndAlike (related : α → β → Prop) : Except ε α → Except ε β → Prop
  | error (fault : ε) : EndAlike related (.error fault) (.error fault)
  | ok {first : α} {second : β} (results : related first second) :
      EndAlike related (.ok first) (.ok second)

namespace EndAlike

variable {γ δ : Type} {related : α → β → Prop} {relatedNext : γ → δ → Prop}
  {first : Except ε α} {second : Except ε β}

theorem results (alike : EndAlike related first second) {result : α} {other : β}
    (ended : first = .ok result) (otherEnded : second = .ok other) : related result other := by
  cases alike with
  | error fault => cases ended
  | ok results =>
      cases ended
      cases otherEnded
      exact results

/-- Steps that end alike, on whose results the next steps end alike, end alike together. -/
theorem bind {next : α → Except ε γ} {nextOther : β → Except ε δ}
    (alike : EndAlike related first second)
    (later : ∀ result other, first = .ok result → second = .ok other → related result other →
      EndAlike relatedNext (next result) (nextOther other)) :
    EndAlike relatedNext (first >>= next) (second >>= nextOther) := by
  cases alike with
  | error fault => exact .error fault
  | @ok result other results => exact later result other rfl rfl results

theorem map {next : α → γ} {nextOther : β → δ} (alike : EndAlike related first second)
    (later : ∀ result other, related result other →
      relatedNext (next result) (nextOther other)) :
    EndAlike relatedNext (first.map next) (second.map nextOther) := by
  cases alike with
  | error fault => exact .error fault
  | @ok result other results => exact .ok (later result other results)

/-- Computations that start with the same step end alike if what follows does. -/
theorem andThen {step : Except ε α} {next : α → Except ε γ} {nextOther : α → Except ε δ}
    (later : ∀ result, step = .ok result →
      EndAlike relatedNext (next result) (nextOther result)) :
    EndAlike relatedNext (step >>= next) (step >>= nextOther) := by
  cases step with
  | error fault => exact .error fault
  | ok result => exact later result rfl

/-- Computations behind the same check end alike if they do where it finds no fault. -/
theorem check {fault : Prop} [Decidable fault] {error : ε} {step : Unit → Except ε γ}
    {stepOther : Unit → Except ε δ} {rest : Except ε γ} {restOther : Except ε δ}
    (later : ¬ fault → EndAlike relatedNext rest restOther) :
    EndAlike relatedNext (if fault then (throw error : Except ε Unit) >>= step else rest)
      (if fault then (throw error : Except ε Unit) >>= stepOther else restOther) := by
  by_cases found : fault
  · rw [if_pos found, if_pos found]
    exact .error error
  · rw [if_neg found, if_neg found]
    exact later found

/-- Items computed in order by steps that end alike end alike, with results that are related
one by one. -/
theorem collected {ι : Type} {step : ι → Except ε α} {stepOther : ι → Except ε β}
    (collect : List ι → Except ε (List α)) (collectOther : List ι → Except ε (List β))
    (collectNil : collect [] = .ok []) (collectOtherNil : collectOther [] = .ok [])
    (collectCons : ∀ item rest, collect (item :: rest) =
      step item >>= fun result => collect rest >>= fun results => .ok (result :: results))
    (collectOtherCons : ∀ item rest, collectOther (item :: rest) =
      stepOther item >>= fun result =>
        collectOther rest >>= fun results => .ok (result :: results))
    {items : List ι} (each : ∀ item ∈ items, EndAlike related (step item) (stepOther item)) :
    EndAlike (List.Forall₂ related) (collect items) (collectOther items) := by
  induction items with
  | nil =>
      rw [collectNil, collectOtherNil]
      exact .ok .nil
  | cons item rest inductionHypothesis =>
      rw [List.forall_mem_cons] at each
      rw [collectCons, collectOtherCons]
      refine each.1.bind fun result other _ _ related => ?_
      refine (inductionHypothesis each.2).bind fun results others _ _ allRelated => ?_
      exact .ok (.cons related allRelated)

end EndAlike

end Rollup
