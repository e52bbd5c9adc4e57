import Rollup.Document.Yaml
import Rollup.Proofs.Document.Leaves
import Rollup.Proofs.Double.Nearest

/-!
# The scalars of YAML documents

The leaves of a document that comes from a YAML text are scalars with their texts, as far as
they are read.  A scalar that denotes a double denotes a finite one, unless its text is one of
the words for infinity and for an absent number.
-/

namespace Rollup.Document

open Text Yaml

/-! ## Leaves of YAML documents -/

/-- Whether a document is a scalar of a text, or what was not read. -/
def IsRaw (document : Document) : Prop :=
  (∃ tag style text, document = .scalar tag style text) ∨ document = .excess

/-- Whether every leaf of a document is a scalar of a text, or what was not read. -/
def LeavesAreRaw (document : Document) : Prop :=
  ∀ leaf ∈ document.leaves, leaf.IsRaw

theorem leavesAreRaw_scalar (tag : Option Tag) (style : Style) (text : String) :
    LeavesAreRaw (.scalar tag style text) :=
  List.forall_mem_singleton.mpr (.inl ⟨tag, style, text, rfl⟩)

theorem leavesAreRaw_excess : LeavesAreRaw .excess :=
  List.forall_mem_singleton.mpr (.inr rfl)

@[simp]
theorem leavesAreRaw_withTag {tag : Option Tag} {document : Document} :
    LeavesAreRaw (withTag tag document) ↔ LeavesAreRaw document := by
  unfold withTag
  split
  · rfl
  · rfl

/-! ### Steps over a state -/

section

variable {α β σ : Type} {Q : β → Prop}

/-- Whether what a step gives has a property, whatever state it starts in. -/
def Gives (step : StateM σ α) (R : α → Prop) : Prop :=
  ∀ state, R (step.run state).1

theorem gives_true {step : StateM σ α} : Gives step fun _ => True :=
  fun _ => trivial

theorem gives_pure {value : β} (holds : Q value) : Gives (pure value : StateM σ β) Q :=
  fun _ => holds

theorem gives_bind {step : StateM σ α} {next : α → StateM σ β} {R : α → Prop}
    (first : Gives step R) (after : ∀ value, R value → Gives (next value) Q) :
    Gives (step >>= next) Q :=
  fun state => after _ (first state) _

theorem gives_mapM {step : α → StateM σ β} {items : List α}
    (each : ∀ item ∈ items, Gives (step item) Q) :
    Gives (items.mapM step) fun results => ∀ result ∈ results, Q result := by
  induction items with
  | nil => exact gives_pure (List.forall_mem_nil _)
  | cons item rest inductionHypothesis =>
      rw [List.forall_mem_cons] at each
      rw [List.mapM_cons]
      exact gives_bind each.1 fun first firstHolds =>
        gives_bind (inductionHypothesis each.2) fun others othersHold =>
          gives_pure (List.forall_mem_cons.mpr ⟨firstHolds, othersHold⟩)

end

/-- The leaves of the document of a node are scalars of the text, or what was not read. -/
theorem leavesAreRaw_ofNode (anchors : Anchors) (depth : Nat) (outline : Outline) (node : Node) :
    Gives (ofNode anchors depth outline node) LeavesAreRaw := by
  induction depth generalizing outline node with
  | zero =>
      rw [ofNode]
      refine gives_bind gives_true fun found _ => ?_
      split
      · exact gives_pure (leavesAreRaw_scalar _ _ _)
      · exact gives_pure leavesAreRaw_excess
  | succ depth inductionHypothesis =>
      rw [ofNode]
      refine gives_bind gives_true fun found _ => ?_
      split
      · exact gives_pure (leavesAreRaw_scalar _ _ _)
      · split
        · next item _ =>
          refine gives_bind (gives_mapM fun node _ => inductionHypothesis item node)
            fun items each => ?_
          exact gives_pure (leavesAreRaw_withTag.mpr (forall_leaves_list.mpr each))
        · exact gives_pure leavesAreRaw_excess
      · refine gives_bind (gives_mapM (Q := fun entry : Document × Document =>
          entry.1.LeavesAreRaw ∧ entry.2.LeavesAreRaw) fun entry _ => ?_) fun entries each =>
            gives_pure (leavesAreRaw_withTag.mpr (forall_leaves_map.mpr each))
        refine gives_bind (inductionHypothesis .whole entry.1) fun key keyRaw => ?_
        split
        · next part _ =>
          exact gives_bind (inductionHypothesis part entry.2) fun value valueRaw =>
            gives_pure ⟨keyRaw, valueRaw⟩
        · exact gives_pure ⟨keyRaw, leavesAreRaw_excess⟩
      · exact gives_pure leavesAreRaw_excess

theorem leavesAreRaw_of_ofYaml? {outline : Outline} {text : String} {document : Document}
    (found : ofYaml? outline text = some document) : document.LeavesAreRaw := by
  obtain ⟨tokens, _, found⟩ := Option.bind_eq_some_iff.mp found
  obtain ⟨⟨node, anchors⟩, _, built⟩ := Option.bind_eq_some_iff.mp found
  cases built
  exact leavesAreRaw_ofNode anchors maxDepth outline node _

/-! ## Doubles of scalars -/

/-- The texts of plain scalars that denote no finite double: signed infinities, and the absent
number, which has no sign. -/
def nonFiniteWords : List String :=
  [".inf", ".Inf", ".INF", "-.inf", "-.Inf", "-.INF", "+.inf", "+.Inf", "+.INF", ".nan", ".NaN",
    ".NAN"]

theorem nonFiniteWords_denote : ∀ word ∈ nonFiniteWords,
    integerOfPlain? word.toList = none ∧
      (doubleOfPlain? word.toList).all (fun value => !value.isFinite) = true := by
  decide

/-- A word for infinity is one of the words under each sign. -/
theorem signed_mem_nonFiniteWords : ∀ word ∈ [".inf", ".Inf", ".INF"],
    word ∈ nonFiniteWords ∧ String.ofList ('-' :: word.toList) ∈ nonFiniteWords ∧
      String.ofList ('+' :: word.toList) ∈ nonFiniteWords := by
  decide

theorem absent_mem_nonFiniteWords : ∀ word ∈ [".nan", ".NaN", ".NAN"],
    word ∈ nonFiniteWords := by
  decide

/-- A text is a sign or none and what follows that. -/
theorem eq_of_splitSign {text rest : List Char} {negative : Bool}
    (split : splitSign text = (negative, rest)) :
    text = rest ∨ text = '-' :: rest ∨ text = '+' :: rest := by
  unfold splitSign at split
  split at split <;> cases split
  · exact .inr (.inl rfl)
  · exact .inr (.inr rfl)
  · exact .inl rfl

/-- A text that denotes a double denotes a finite one unless it is one of the words. -/
theorem isFinite_iff_of_doubleOfPlain? {text : String} {value : Double}
    (found : doubleOfPlain? text.toList = some value) :
    value.isFinite = true ↔ text ∉ nonFiniteWords := by
  constructor
  · intro finite listed
    have known := (nonFiniteWords_denote text listed).2
    rw [found, Option.all_some, finite] at known
    cases known
  · intro other
    unfold doubleOfPlain? at found
    rcases parts : splitSign text.toList with ⟨negative, rest⟩
    simp only [parts] at found
    split at found
    · next infinite =>
      obtain ⟨unsigned, minus, plus⟩ :=
        signed_mem_nonFiniteWords _ (List.contains_iff_mem.mp infinite)
      rw [String.toList_ofList] at minus plus
      have whole : text = String.ofList text.toList := String.ofList_toList.symm
      rcases eq_of_splitSign parts with same | same | same
      all_goals rw [whole, same] at other
      · exact absurd unsigned other
      · exact absurd minus other
      · exact absurd plus other
    · split at found
      · next absent =>
        rw [String.ofList_toList] at absent
        exact absurd (absent_mem_nonFiniteWords text (List.contains_iff_mem.mp absent)) other
      · split at found
        · next double _ =>
          split at found
          · next finite =>
            cases found
            exact finite
          · cases found
        · cases found

/-- An integer that is read as a double has sixty-four bits, so the double is finite. -/
theorem isFinite_of_ofInteger? {integer : Bool × Nat} {resolved : Document} {value : Double}
    (found : ofInteger? integer = some resolved) (read : toDouble resolved = .ok value) :
    value.isFinite = true := by
  obtain ⟨negative, magnitude⟩ := integer
  unfold ofInteger? at found
  split at found
  · next narrow =>
    cases found
    cases negative with
    | true =>
        simp only [isNarrow, if_true, decide_eq_true_eq] at narrow
        cases read
        exact Double.isFinite_ofInt (by omega)
    | false =>
        simp only [isNarrow, Bool.false_eq_true, if_false, decide_eq_true_eq] at narrow
        cases read
        exact Double.isFinite_ofInt (by omega)
  · cases found

section

variable {text : String} {resolved : Document} {value : Double}

/-- None of the words is an integer, and an integer is a finite double. -/
theorem isFinite_iff_of_integer {integer : Bool × Nat}
    (isInteger : integerOfPlain? text.toList = some integer)
    (found : ofInteger? integer = some resolved) (read : toDouble resolved = .ok value) :
    value.isFinite = true ↔ text ∉ nonFiniteWords := by
  refine iff_of_true (isFinite_of_ofInteger? found read) fun listed => ?_
  rw [(nonFiniteWords_denote text listed).1] at isInteger
  cases isInteger

theorem isFinite_iff_of_resolvePlain? (found : resolvePlain? text = some resolved)
    (read : toDouble resolved = .ok value) :
    value.isFinite = true ↔ text ∉ nonFiniteWords := by
  unfold resolvePlain? at found
  split at found
  · cases found
    cases read
  · split at found
    · cases found
      cases read
    · dsimp only at found
      split at found
      · next integer filtered =>
        exact isFinite_iff_of_integer (Option.eq_some_of_filter_eq_some filtered) found read
      · split at found
        · cases found
          cases read
        · cases double : doubleOfPlain? text.toList with
          | none =>
              rw [double] at found
              cases found
              cases read
          | some parsed =>
              rw [double] at found
              cases found
              cases read
              exact isFinite_iff_of_doubleOfPlain? double

/-- A scalar that denotes a double denotes a finite one unless its text is one of the words. -/
theorem isFinite_iff_of_denotes {tag : Option Tag} {style : Style}
    (denotes : (Document.scalar tag style text).Denotes value) :
    value.isFinite = true ↔ text ∉ nonFiniteWords := by
  obtain ⟨resolved, found, read⟩ := denotes
  change resolveScalar? tag style text = some resolved at found
  unfold resolveScalar? at found
  split at found
  · split at found
    · cases found
      cases read
    · cases found
  · obtain ⟨_, _, rfl⟩ := Option.map_eq_some_iff.mp found
    cases read
  · obtain ⟨integer, isInteger, found⟩ := Option.bind_eq_some_iff.mp found
    exact isFinite_iff_of_integer isInteger found read
  · obtain ⟨parsed, double, rfl⟩ := Option.map_eq_some_iff.mp found
    cases read
    exact isFinite_iff_of_doubleOfPlain? double
  · cases found
  · cases found
    cases read
  all_goals
    split at found
    · exact isFinite_iff_of_resolvePlain? found read
    · cases found
      cases read

end

end Rollup.Document
