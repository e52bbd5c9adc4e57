import Rollup.Document.Decoder
import Rollup.Proofs.Steps

/-!
# The leaves of documents

A leaf of a document is a part that holds no others.  Reading takes a document apart and
resolves its scalars, and every double that is read is one that a leaf of the document
denotes.  So a property of all doubles that the leaves of a document denote passes from the
document to whatever is made of it.
-/

namespace Rollup.Document

/-! ## Leaves -/

mutual

/-- The parts of a document that hold no others, in order. -/
def leaves : Document → List Document
  | .list items => leavesOfList items
  | .map entries => leavesOfEntries entries
  | .labelled _ content => leaves content
  | document => [document]
termination_by structural document => document

/-- The leaves of some documents. -/
def leavesOfList : List Document → List Document
  | [] => []
  | document :: rest => leaves document ++ leavesOfList rest
termination_by structural items => items

/-- The leaves of the keys and values of a map. -/
def leavesOfEntries : List (Document × Document) → List Document
  | [] => []
  | (key, value) :: rest => leaves key ++ leaves value ++ leavesOfEntries rest
termination_by structural entries => entries

end

@[simp]
theorem leavesOfList_eq_flatMap (items : List Document) :
    leavesOfList items = items.flatMap leaves := by
  induction items with
  | nil => rfl
  | cons item rest inductionHypothesis =>
      rw [leavesOfList, inductionHypothesis, List.flatMap_cons]

@[simp]
theorem leavesOfEntries_eq_flatMap (entries : List (Document × Document)) :
    leavesOfEntries entries = entries.flatMap fun entry => entry.1.leaves ++ entry.2.leaves := by
  induction entries with
  | nil => rfl
  | cons entry rest inductionHypothesis =>
      rw [leavesOfEntries, inductionHypothesis, List.flatMap_cons]

@[simp]
theorem forall_leaves_list {Q : Document → Prop} {items : List Document} :
    (∀ leaf ∈ (list items).leaves, Q leaf) ↔ ∀ item ∈ items, ∀ leaf ∈ item.leaves, Q leaf := by
  rw [leaves, leavesOfList_eq_flatMap, List.forall_mem_flatMap]

@[simp]
theorem forall_leaves_map {Q : Document → Prop} {entries : List (Document × Document)} :
    (∀ leaf ∈ (map entries).leaves, Q leaf) ↔
      ∀ entry ∈ entries, (∀ leaf ∈ entry.1.leaves, Q leaf) ∧ ∀ leaf ∈ entry.2.leaves, Q leaf := by
  rw [leaves, leavesOfEntries_eq_flatMap, List.forall_mem_flatMap]
  simp only [List.forall_mem_append]

/-- Whether a document is its own only leaf. -/
def isLeaf : Document → Bool
  | .list _ => false
  | .map _ => false
  | .labelled _ _ => false
  | _ => true

theorem leaves_of_isLeaf {document : Document} (leaf : document.isLeaf = true) :
    document.leaves = [document] := by
  cases document <;> first | rfl | cases leaf

/-- What holds of every leaf, and of a list, a map or a labelled document as soon as it holds
of the parts, holds of every document. -/
@[elab_as_elim]
theorem induction {motive : Document → Prop}
    (leaf : ∀ document, document.isLeaf = true → motive document)
    (list : ∀ items, (∀ item ∈ items, motive item) → motive (.list items))
    (map : ∀ entries, (∀ entry ∈ entries, motive entry.1 ∧ motive entry.2) →
      motive (.map entries))
    (labelled : ∀ name content, motive content → motive (.labelled name content))
    (document : Document) : motive document :=
  @Document.rec motive (fun items => ∀ item ∈ items, motive item)
    (fun entries => ∀ entry ∈ entries, motive entry.1 ∧ motive entry.2)
    (fun entry => motive entry.1 ∧ motive entry.2)
    (leaf _ rfl) (fun _ => leaf _ rfl) (fun _ => leaf _ rfl) (fun _ => leaf _ rfl)
    (fun _ => leaf _ rfl) (fun _ => leaf _ rfl) (fun _ _ _ => leaf _ rfl) list map labelled
    (leaf _ rfl) (fun _ listed => by cases listed)
    (fun _ _ first rest => List.forall_mem_cons.mpr ⟨first, rest⟩)
    (fun _ listed => by cases listed)
    (fun _ _ first rest => List.forall_mem_cons.mpr ⟨first, rest⟩)
    (fun _ _ first second => ⟨first, second⟩) document

/-! ## Doubles -/

/-- Whether a leaf, once it is resolved, is read as a double. -/
def Denotes (leaf : Document) (value : Double) : Prop :=
  ∃ resolved, resolve? leaf = some resolved ∧ toDouble resolved = .ok value

/-- Whether every double that a leaf of a document denotes has a property. -/
def ForallDoubles (P : Double → Prop) (document : Document) : Prop :=
  ∀ leaf ∈ document.leaves, ∀ value, leaf.Denotes value → P value

variable {P : Double → Prop} {α : Type}

@[simp]
theorem forallDoubles_list {items : List Document} :
    ForallDoubles P (.list items) ↔ ∀ item ∈ items, item.ForallDoubles P :=
  forall_leaves_list

@[simp]
theorem forallDoubles_map {entries : List (Document × Document)} :
    ForallDoubles P (.map entries) ↔
      ∀ entry ∈ entries, entry.1.ForallDoubles P ∧ entry.2.ForallDoubles P :=
  forall_leaves_map

@[simp]
theorem forallDoubles_unlabelled {document : Document} :
    ForallDoubles P document.unlabelled ↔ ForallDoubles P document := by
  cases document <;> rfl

/-- The property of all doubles of a leaf is that of the one it denotes. -/
theorem forallDoubles_of_isLeaf {document : Document} (leaf : document.isLeaf = true) :
    ForallDoubles P document ↔ ∀ value, document.Denotes value → P value := by
  rw [ForallDoubles, leaves_of_isLeaf leaf, List.forall_mem_singleton]

/-! ## Values -/

/-- Whether a document is the value of a scalar. -/
def isValue : Document → Bool
  | .null => true
  | .boolean _ => true
  | .natural _ => true
  | .negated _ => true
  | .float _ => true
  | .text _ => true
  | _ => false

theorem isLeaf_of_isValue {document : Document} (value : document.isValue = true) :
    document.isLeaf = true := by
  cases document <;> first | rfl | cases value

theorem resolve?_of_isValue {document : Document} (value : document.isValue = true) :
    resolve? document = some document := by
  cases document <;> first | rfl | cases value

@[simp]
theorem isValue_signed (negative : Bool) (value : Nat) :
    (signed negative value).isValue = true := by
  cases negative <;> rfl

theorem isValue_of_ofInteger? {integer : Bool × Nat} {resolved : Document}
    (found : ofInteger? integer = some resolved) : resolved.isValue = true := by
  unfold ofInteger? at found
  split at found
  · cases found
    exact isValue_signed _ _
  · cases found

theorem isValue_of_resolvePlain? {text : String} {resolved : Document}
    (found : resolvePlain? text = some resolved) : resolved.isValue = true := by
  unfold resolvePlain? at found
  split at found
  · cases found
    rfl
  · split at found
    · cases found
      rfl
    · dsimp only at found
      split at found
      · exact isValue_of_ofInteger? found
      · split at found
        · cases found
          rfl
        · cases double : doubleOfPlain? text.toList with
          | none =>
              rw [double] at found
              cases found
              rfl
          | some value =>
              rw [double] at found
              cases found
              rfl

theorem isValue_of_resolveScalar? {tag : Option Yaml.Tag} {style : Yaml.Style} {text : String}
    {resolved : Document} (found : resolveScalar? tag style text = some resolved) :
    resolved.isValue = true := by
  unfold resolveScalar? at found
  split at found
  · split at found
    · cases found
      rfl
    · cases found
  · obtain ⟨value, _, rfl⟩ := Option.map_eq_some_iff.mp found
    rfl
  · obtain ⟨integer, _, found⟩ := Option.bind_eq_some_iff.mp found
    exact isValue_of_ofInteger? found
  · obtain ⟨value, _, rfl⟩ := Option.map_eq_some_iff.mp found
    rfl
  · cases found
  · cases found
    rfl
  all_goals
    split at found
    · exact isValue_of_resolvePlain? found
    · cases found
      rfl

/-- A leaf that can be resolved becomes a value. -/
theorem isValue_of_resolve? {document resolved : Document} (leaf : document.isLeaf = true)
    (found : resolve? document = some resolved) : resolved.isValue = true := by
  cases document with
  | scalar tag style text => exact isValue_of_resolveScalar? found
  | excess => cases found
  | list items => cases leaf
  | map entries => cases leaf
  | labelled name content => cases leaf
  | _ =>
      cases found
      rfl

/-- What is read as a double is a value. -/
theorem isValue_of_toDouble {document : Document} {value : Double}
    (read : toDouble document = .ok value) : document.isValue = true := by
  cases document <;> first | rfl | cases read

/-! ## Resolving -/

/-- A value that can be read as a double has the property of the double. -/
theorem forallDoubles_of_isValue {document : Document} (value : document.isValue = true) :
    ForallDoubles P document ↔ ∀ double, toDouble document = .ok double → P double := by
  rw [forallDoubles_of_isLeaf (isLeaf_of_isValue value)]
  simp only [Denotes, resolve?_of_isValue value, Option.some.injEq, exists_eq_left']

/-- What holds of whatever becomes of each item holds of every resolved item. -/
theorem forall_of_resolveList? {Q : Document → Prop} {items resolved : List Document}
    (each : ∀ item ∈ items, ∀ {value}, resolve? item = some value → Q value)
    (found : resolveList? items = some resolved) : ∀ value ∈ resolved, Q value := by
  induction items generalizing resolved with
  | nil =>
      cases found
      exact List.forall_mem_nil _
  | cons item rest inductionHypothesis =>
      rw [List.forall_mem_cons] at each
      obtain ⟨first, foundFirst, found⟩ := Option.bind_eq_some_iff.mp found
      obtain ⟨others, foundOthers, built⟩ := Option.bind_eq_some_iff.mp found
      cases built
      exact List.forall_mem_cons.mpr
        ⟨each.1 foundFirst, inductionHypothesis each.2 foundOthers⟩

/-- What holds of whatever becomes of each key and value holds of every resolved one. -/
theorem forall_of_resolveEntries? {Q : Document → Prop}
    {entries resolved : List (Document × Document)}
    (each : ∀ entry ∈ entries, (∀ {value}, resolve? entry.1 = some value → Q value) ∧
      ∀ {value}, resolve? entry.2 = some value → Q value)
    (found : resolveEntries? entries = some resolved) :
    ∀ entry ∈ resolved, Q entry.1 ∧ Q entry.2 := by
  induction entries generalizing resolved with
  | nil =>
      cases found
      exact List.forall_mem_nil _
  | cons entry rest inductionHypothesis =>
      rw [List.forall_mem_cons] at each
      obtain ⟨key, foundKey, found⟩ := Option.bind_eq_some_iff.mp found
      obtain ⟨value, foundValue, found⟩ := Option.bind_eq_some_iff.mp found
      obtain ⟨others, foundOthers, built⟩ := Option.bind_eq_some_iff.mp found
      cases built
      exact List.forall_mem_cons.mpr
        ⟨⟨each.1.1 foundKey, each.1.2 foundValue⟩, inductionHypothesis each.2 foundOthers⟩

/-- Resolving keeps the doubles of a document. -/
theorem forallDoubles_of_resolve? {document resolved : Document}
    (doubles : document.ForallDoubles P) (found : resolve? document = some resolved) :
    resolved.ForallDoubles P := by
  induction document using Document.induction generalizing resolved with
  | leaf document leaf =>
      rw [forallDoubles_of_isLeaf leaf] at doubles
      rw [forallDoubles_of_isValue (isValue_of_resolve? leaf found)]
      exact fun value read => doubles value ⟨resolved, found, read⟩
  | list items each =>
      obtain ⟨values, foundValues, rfl⟩ := Option.map_eq_some_iff.mp found
      rw [forallDoubles_list] at doubles ⊢
      exact forall_of_resolveList? (fun item listed _ => each item listed (doubles item listed))
        foundValues
  | map entries each =>
      obtain ⟨values, foundValues, rfl⟩ := Option.map_eq_some_iff.mp found
      rw [forallDoubles_map] at doubles ⊢
      exact forall_of_resolveEntries? (fun entry listed =>
        ⟨(each entry listed).1 (doubles entry listed).1,
          (each entry listed).2 (doubles entry listed).2⟩) foundValues
  | labelled name content _ => cases found

/-! ## Tagged structures and their fields -/

/-- The entries besides the name of a variant keep their doubles. -/
theorem forallDoubles_of_splitVariant? {entries others : List (Document × Document)}
    {variant : Option Document}
    (doubles : ∀ entry ∈ entries, entry.1.ForallDoubles P ∧ entry.2.ForallDoubles P)
    (found : splitVariant? entries = some (variant, others)) :
    ∀ entry ∈ others, entry.1.ForallDoubles P ∧ entry.2.ForallDoubles P := by
  induction entries generalizing variant others with
  | nil =>
      cases found
      exact List.forall_mem_nil _
  | cons entry rest inductionHypothesis =>
      rw [List.forall_mem_cons] at doubles
      obtain ⟨⟨laterVariant, laterOthers⟩, foundLater, found⟩ := Option.bind_eq_some_iff.mp found
      obtain ⟨key, foundKey, found⟩ := Option.bind_eq_some_iff.mp found
      have later := inductionHypothesis doubles.2 foundLater
      split at found
      · split at found
        · cases found
        · cases found
          exact later
      · obtain ⟨value, foundValue, built⟩ := Option.bind_eq_some_iff.mp found
        cases built
        exact List.forall_mem_cons.mpr ⟨⟨forallDoubles_of_resolve? doubles.1.1 foundKey,
          forallDoubles_of_resolve? doubles.1.2 foundValue⟩, later⟩

/-- The fields of a tagged structure keep its doubles. -/
theorem forallDoubles_of_tagged {form : Form} {variants : List (String × α)}
    {document rest : Document} {variant : α} (doubles : document.ForallDoubles P)
    (found : tagged form variants document = .ok (variant, rest)) : rest.ForallDoubles P := by
  unfold tagged at found
  split at found
  · rw [forallDoubles_map] at doubles
    split at found
    · next split =>
      obtain ⟨_, _, built⟩ := bind_eq_ok_iff.mp found
      cases built
      exact forallDoubles_map.mpr (forallDoubles_of_splitVariant? doubles split)
    · cases found
  · rw [forallDoubles_list, List.forall_mem_cons] at doubles
    split at found
    · next resolved =>
      obtain ⟨_, _, built⟩ := bind_eq_ok_iff.mp found
      cases built
      exact forallDoubles_list.mpr (forall_of_resolveList? (fun other listed _ =>
        forallDoubles_of_resolve? (doubles.2 other listed)) resolved)
    · cases found
  · cases found

/-- The fields among entries keep the doubles of these. -/
theorem forallDoubles_of_fieldsOfEntries {form : Form} {names : List (String × String)}
    {seen : List String} {entries : List (Document × Document)} {given : Given}
    (doubles : ∀ entry ∈ entries, entry.2.ForallDoubles P)
    (found : fieldsOfEntries form names seen entries = .ok given) :
    ∀ field ∈ given, field.2.ForallDoubles P := by
  induction entries generalizing seen given with
  | nil =>
      cases found
      exact List.forall_mem_nil _
  | cons entry rest inductionHypothesis =>
      rw [List.forall_mem_cons] at doubles
      obtain ⟨name?, _, found⟩ := bind_eq_ok_iff.mp found
      cases name? with
      | none => exact inductionHypothesis doubles.2 found
      | some name =>
          obtain ⟨_, found⟩ := check_eq_ok_iff.mp found
          obtain ⟨others, foundOthers, built⟩ := bind_eq_ok_iff.mp found
          cases built
          exact List.forall_mem_cons.mpr
            ⟨doubles.1, inductionHypothesis doubles.2 foundOthers⟩

/-- The fields of a structure keep its doubles. -/
theorem forallDoubles_of_fields {form : Form} {names : List String} {document : Document}
    {given : Given} (doubles : document.ForallDoubles P)
    (found : fields form names document = .ok given) :
    ∀ field ∈ given, field.2.ForallDoubles P := by
  rw [← forallDoubles_unlabelled] at doubles
  unfold fields at found
  split at found
  · next entries stands =>
    rw [stands, forallDoubles_map] at doubles
    exact forallDoubles_of_fieldsOfEntries (fun entry listed => (doubles entry listed).2) found
  · next items stands =>
    rw [stands, forallDoubles_list] at doubles
    split at found
    · cases found
      exact fun field listed => doubles field.2 (List.of_mem_zip listed).2
    · cases found
  · cases found
    exact List.forall_mem_nil _
  · cases found

/-! ## Readers -/

/-- Whether what a reader makes of a document has a property as soon as all doubles of the
document have one. -/
def Carries (P : Double → Prop) (read : Document → Decoded α) (Q : α → Prop) : Prop :=
  ∀ document value, document.ForallDoubles P → read document = .ok value → Q value

variable {read : Document → Decoded α} {Q : α → Prop}

/-- A double that is read is one of the document. -/
theorem carries_toDouble : Carries P toDouble P := by
  intro document value doubles found
  exact (forallDoubles_of_isValue (isValue_of_toDouble found)).mp doubles value found

/-- What is read as a number that is a double is read as that double. -/
theorem toDouble_of_toNumber {document : Document} {value : Double}
    (found : toNumber document = .ok (.float value)) : toDouble document = .ok value := by
  unfold toNumber at found
  unfold toDouble
  cases known : document.integer? with
  | some integer =>
      simp only [known] at found ⊢
      split at found
      · cases found
      · cases found
        rfl
  | none =>
      cases document with
      | float double =>
          cases found
          rfl
      | natural magnitude => cases known
      | negated magnitude => cases known
      | _ => cases found

/-- A number that is read as a double is a double of the document. -/
theorem carries_toNumber : Carries P toNumber fun number => ∀ value, number = .float value →
    P value := by
  rintro document _ doubles found value rfl
  exact carries_toDouble document value doubles (toDouble_of_toNumber found)

theorem Carries.readAll (carries : Carries P read Q) {items : List Document} {values : List α}
    (doubles : ∀ item ∈ items, item.ForallDoubles P)
    (found : readAll read items = .ok values) : ∀ value ∈ values, Q value :=
  forall_results_of_forall₂
    (forall₂_of_collected (Document.readAll read) rfl (fun _ _ => rfl) found)
    fun item listed _ readItem => carries item _ (doubles item listed) readItem

/-- The items of a list that is read have the property. -/
theorem Carries.toList (carries : Carries P read Q) :
    Carries P (toList read) fun values => ∀ value ∈ values, Q value := by
  intro document values doubles found
  rw [← forallDoubles_unlabelled] at doubles
  unfold Document.toList at found
  split at found
  · next items stands =>
    rw [stands, forallDoubles_list] at doubles
    exact carries.readAll doubles found
  · cases found
    exact List.forall_mem_nil _
  · cases found

/-- A value that may be null has the property if it is there. -/
theorem Carries.toOptional (carries : Carries P read Q) :
    Carries P (toOptional read) fun value => ∀ present ∈ value, Q present := by
  have mapped {document : Document} {value : Option α} (doubles : document.ForallDoubles P)
      (found : (read document).map some = .ok value) : ∀ present ∈ value, Q present := by
    obtain ⟨result, readResult, rfl⟩ := map_eq_ok_iff.mp found
    rintro _ ⟨⟩
    exact carries document result doubles readResult
  intro document value doubles found
  unfold Document.toOptional at found
  split at found
  · cases found
    rintro _ ⟨⟩
  · split at found
    · cases found
      rintro _ ⟨⟩
    · exact mapped doubles found
  · split at found
    · cases found
      rintro _ ⟨⟩
    · cases found
  · exact mapped doubles found

/-- A field that has to be given has the property. -/
theorem Carries.required (carries : Carries P read Q) {given : Given} {name : String} {value : α}
    (doubles : ∀ field ∈ given, field.2.ForallDoubles P)
    (found : required given name read = .ok value) : Q value := by
  unfold Document.required at found
  split at found
  · next document stands =>
    obtain ⟨before, after, rfl, _⟩ := List.lookup_eq_some_iff.mp stands
    exact carries document value (doubles (name, document) (by simp)) found
  · cases found

end Rollup.Document
