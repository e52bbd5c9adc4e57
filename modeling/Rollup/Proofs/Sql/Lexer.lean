import Rollup.Sql.Dialect

/-!
# Reading quotes

How an engine tells names and strings from the rest of a statement: character by
character, a quote opening a token that the next quote closes unless it is doubled.  In the
strings of MySQL a backslash takes the next character as it is.

A list of tokens is legible when no text of its own opens a quote and something stands
between any two quoted tokens.  Such a list is read back from its text, each quoted token
with the payload that it was written for.
-/

namespace Rollup.Sql

/-! ## The lexer -/

/-- What is found in a text: a character outside quotes, a name or a string. -/
inductive Lexeme where
  | plain (c : Char)
  | identifier (name : String)
  | string (value : String)
  deriving DecidableEq

/-- The kinds of quoted tokens. -/
inductive Quotation where
  | identifier
  | string
  deriving DecidableEq

namespace Quotation

/-- The quote around a kind of token. -/
def mark (dialect : Dialect) : Quotation → Char
  | .identifier => dialect.identifierQuote
  | .string => '\x27'

/-- Whether a backslash takes the next character as it is. -/
def escapes (dialect : Dialect) : Quotation → Bool
  | .identifier => false
  | .string => dialect == .mysql

/-- A quoted token with a payload. -/
def lexeme (payload : List Char) : Quotation → Lexeme
  | .identifier => .identifier (String.ofList payload)
  | .string => .string (String.ofList payload)

end Quotation

/-- Where a lexer stands. -/
inductive ScanState where
  | outside
  /-- In a quoted token, after some of its payload. -/
  | inside (kind : Quotation) (payload : List Char)
  /-- After a backslash that takes the next character. -/
  | escaped (kind : Quotation) (payload : List Char)
  /-- After a quote that closes the token unless another follows. -/
  | closing (kind : Quotation) (payload : List Char)

namespace Dialect

variable (dialect : Dialect)

/-- A character outside quotes. -/
def scanOutside (c : Char) : ScanState × List Lexeme :=
  if c = dialect.identifierQuote then (.inside .identifier [], [])
  else if c = '\x27' then (.inside .string [], [])
  else (.outside, [.plain c])

/-- One character: where the lexer stands after it, and what it has found. -/
def scanStep : ScanState → Char → ScanState × List Lexeme
  | .outside, c => dialect.scanOutside c
  | .inside kind payload, c =>
      if c = kind.mark dialect then (.closing kind payload, [])
      else if c = '\\' ∧ kind.escapes dialect then (.escaped kind payload, [])
      else (.inside kind (payload ++ [c]), [])
  | .escaped kind payload, c => (.inside kind (payload ++ [c]), [])
  | .closing kind payload, c =>
      if c = kind.mark dialect then (.inside kind (payload ++ [c]), [])
      else
        let (state, found) := dialect.scanOutside c
        (state, kind.lexeme payload :: found)

/-- What is found in a text from a state on; nothing when a quote stays open. -/
def scanFrom : ScanState → List Char → Option (List Lexeme)
  | .outside, [] => some []
  | .closing kind payload, [] => some [kind.lexeme payload]
  | _, [] => none
  | state, c :: rest =>
      let (next, found) := dialect.scanStep state c
      (scanFrom next rest).map (found ++ ·)

/-- The lexemes of a text, if every quote in it is closed. -/
def scan (sql : String) : Option (List Lexeme) :=
  dialect.scanFrom .outside sql.toList

variable {dialect}

@[simp]
theorem scanFrom_cons (state : ScanState) (c : Char) (rest : List Char) :
    dialect.scanFrom state (c :: rest) =
      (dialect.scanFrom (dialect.scanStep state c).1 rest).map
        ((dialect.scanStep state c).2 ++ ·) := by
  cases state <;> rfl

/-- A character that finds nothing only moves the lexer. -/
theorem scanFrom_of_scanStep {state next : ScanState} {c : Char}
    (moves : dialect.scanStep state c = (next, [])) (rest : List Char) :
    dialect.scanFrom state (c :: rest) = dialect.scanFrom next rest := by
  rw [scanFrom_cons, moves]
  exact Option.map_id'

/-! ## Text outside quotes -/

variable (dialect)

/-- Whether a character opens no quote. -/
def IsPlain (c : Char) : Prop :=
  c ≠ dialect.identifierQuote ∧ c ≠ '\x27'

instance (c : Char) : Decidable (dialect.IsPlain c) :=
  inferInstanceAs (Decidable (_ ∧ _))

/-- Whether a text opens no quote. -/
def IsPlainText (text : String) : Prop :=
  ∀ c ∈ text.toList, dialect.IsPlain c

instance (text : String) : Decidable (dialect.IsPlainText text) :=
  List.decidableBAll _ _

variable {dialect}

theorem IsPlainText.append {first second : String} (left : dialect.IsPlainText first)
    (right : dialect.IsPlainText second) : dialect.IsPlainText (first ++ second) := by
  intro c listed
  rw [String.toList_append, List.mem_append] at listed
  exact listed.elim (left c) (right c)

/-- What is no quote of any dialect opens none. -/
theorem isPlain_of_noQuote {c : Char} (noQuote : c ≠ '\x22' ∧ c ≠ '\x60' ∧ c ≠ '\x27') :
    dialect.IsPlain c := by
  refine ⟨?_, noQuote.2.2⟩
  cases dialect
  case mysql => exact noQuote.2.1
  all_goals exact noQuote.1

theorem isPlain_of_isDigit {c : Char} (digit : c.isDigit = true) : dialect.IsPlain c := by
  refine isPlain_of_noQuote ⟨?_, ?_, ?_⟩
  all_goals
    rintro rfl
    exact absurd digit (by decide)

/-- Whether a text has none of the quotes of any dialect. -/
def hasNoQuotes (text : String) : Bool :=
  text.toList.all fun c => decide (c ≠ '\x22' ∧ c ≠ '\x60' ∧ c ≠ '\x27')

theorem isPlainText_of_noQuotes {text : String} (noQuotes : hasNoQuotes text = true) :
    dialect.IsPlainText text :=
  fun c listed => isPlain_of_noQuote (of_decide_eq_true (List.all_eq_true.mp noQuotes c listed))

theorem scanOutside_of_isPlain {c : Char} (plain : dialect.IsPlain c) :
    dialect.scanOutside c = (.outside, [.plain c]) := by
  rw [scanOutside, if_neg plain.1, if_neg plain.2]

theorem scanFrom_plain {text : List Char} (plain : ∀ c ∈ text, dialect.IsPlain c)
    (rest : List Char) :
    dialect.scanFrom .outside (text ++ rest) =
      (dialect.scanFrom .outside rest).map (text.map Lexeme.plain ++ ·) := by
  induction text with
  | nil => simp
  | cons c text inductionHypothesis =>
      rw [List.forall_mem_cons] at plain
      rw [List.cons_append, scanFrom_cons, scanStep, scanOutside_of_isPlain plain.1,
        inductionHypothesis plain.2, Option.map_map]
      rfl

/-! ## Quoted tokens -/

/-- A character as it is written inside quotes. -/
def quotedChar (dialect : Dialect) (kind : Quotation) (c : Char) : List Char :=
  if c = kind.mark dialect ∨ (c = '\\' ∧ kind.escapes dialect) then [c, c] else [c]

/-- A character of a payload is read back. -/
theorem scanFrom_quotedChar (kind : Quotation) (payload : List Char) (c : Char)
    (rest : List Char) :
    dialect.scanFrom (.inside kind payload) (dialect.quotedChar kind c ++ rest) =
      dialect.scanFrom (.inside kind (payload ++ [c])) rest := by
  by_cases quote : c = kind.mark dialect
  · have first : dialect.scanStep (.inside kind payload) c = (.closing kind payload, []) :=
      if_pos quote
    have second : dialect.scanStep (.closing kind payload) c =
        (.inside kind (payload ++ [c]), []) := if_pos quote
    rw [quotedChar, if_pos (.inl quote)]
    exact (scanFrom_of_scanStep first _).trans (scanFrom_of_scanStep second _)
  · by_cases escape : c = '\\' ∧ kind.escapes dialect = true
    · have first : dialect.scanStep (.inside kind payload) c = (.escaped kind payload, []) :=
        (if_neg quote).trans (if_pos escape)
      rw [quotedChar, if_pos (.inr escape)]
      exact (scanFrom_of_scanStep first _).trans (scanFrom_of_scanStep rfl _)
    · have only : dialect.scanStep (.inside kind payload) c =
          (.inside kind (payload ++ [c]), []) :=
        (if_neg quote).trans (if_neg escape)
      rw [quotedChar, if_neg (not_or.mpr ⟨quote, escape⟩)]
      exact scanFrom_of_scanStep only _

theorem scanFrom_payload (kind : Quotation) (before payload rest : List Char) :
    dialect.scanFrom (.inside kind before) (payload.flatMap (dialect.quotedChar kind) ++ rest) =
      dialect.scanFrom (.inside kind (before ++ payload)) rest := by
  induction payload generalizing before with
  | nil => simp
  | cons c payload inductionHypothesis =>
      rw [List.flatMap_cons, List.append_assoc, scanFrom_quotedChar, inductionHypothesis,
        List.append_assoc, List.singleton_append]

/-- Whether a text starts with no quote, so that a quote in front of it closes. -/
def IsClear (dialect : Dialect) (text : List Char) : Prop :=
  ∀ c ∈ text.head?, dialect.IsPlain c

theorem IsPlain.ne_mark {c : Char} (plain : dialect.IsPlain c) (kind : Quotation) :
    c ≠ kind.mark dialect := by
  cases kind
  · exact plain.1
  · exact plain.2

theorem scanFrom_closing (kind : Quotation) (payload : List Char) {rest : List Char}
    (clear : dialect.IsClear rest) :
    dialect.scanFrom (.closing kind payload) rest =
      (dialect.scanFrom .outside rest).map (kind.lexeme payload :: ·) := by
  cases rest with
  | nil => rfl
  | cons c rest =>
      have plain := clear c rfl
      have steps : dialect.scanStep (.closing kind payload) c =
          ((dialect.scanOutside c).1, kind.lexeme payload :: (dialect.scanOutside c).2) :=
        if_neg (plain.ne_mark kind)
      rw [scanFrom_cons, scanFrom_cons, steps, scanStep, Option.map_map]
      rfl

/-- A payload in quotes is read back, whatever it holds. -/
theorem scanFrom_quoted (kind : Quotation) (payload : List Char) {rest : List Char}
    (clear : dialect.IsClear rest) :
    dialect.scanFrom .outside
        (kind.mark dialect :: (payload.flatMap (dialect.quotedChar kind) ++
          kind.mark dialect :: rest)) =
      (dialect.scanFrom .outside rest).map (kind.lexeme payload :: ·) := by
  have opens : dialect.scanStep .outside (kind.mark dialect) = (.inside kind [], []) := by
    cases kind <;> cases dialect <;> rfl
  have closes : dialect.scanStep (.inside kind payload) (kind.mark dialect) =
      (.closing kind payload, []) := if_pos rfl
  rw [scanFrom_of_scanStep opens, scanFrom_payload, List.nil_append,
    scanFrom_of_scanStep closes]
  exact scanFrom_closing kind payload clear

theorem toList_quoteIdentifier (name : String) :
    (dialect.quoteIdentifier name).toList =
      Quotation.identifier.mark dialect ::
        (name.toList.flatMap (dialect.quotedChar .identifier) ++
          [Quotation.identifier.mark dialect]) := by
  have written : dialect.quotedChar .identifier =
      fun c => if c = dialect.identifierQuote then [c, c] else [c] := by
    funext c
    simp [quotedChar, Quotation.mark, Quotation.escapes]
  rw [quoteIdentifier, quoted, String.toList_ofList, written]
  rfl

theorem toList_quoteString (value : String) :
    (dialect.quoteString value).toList =
      Quotation.string.mark dialect ::
        (value.toList.flatMap (dialect.quotedChar .string) ++
          [Quotation.string.mark dialect]) := by
  unfold quoteString
  split
  · rw [quoted, String.toList_ofList, doubleBackslashes, String.toList_ofList,
      List.flatMap_assoc]
    have twice : (fun c : Char => (if c = '\\' then [c, c] else [c]).flatMap
        fun c => if c = '\x27' then [c, c] else [c]) =
          Dialect.mysql.quotedChar .string := by
      funext c
      by_cases backslash : c = '\\'
      · subst backslash
        rfl
      · by_cases quote : c = '\x27' <;>
          simp [backslash, quote, quotedChar, Quotation.mark, Quotation.escapes]
    rw [twice]
    rfl
  · next notMysql =>
    have written : dialect.quotedChar .string =
        fun c => if c = '\x27' then [c, c] else [c] := by
      funext c
      cases dialect <;> simp_all [quotedChar, Quotation.mark, Quotation.escapes]
    rw [quoted, String.toList_ofList, written]
    rfl

end Dialect

/-! ## Legible tokens -/

/-- What a token is read back as. -/
def Token.lexemes : Token → List Lexeme
  | .verbatim text => text.toList.map .plain
  | .identifier name => [.identifier name]
  | .string value => [.string value]

namespace Dialect

variable {dialect : Dialect}

/-- Whether tokens are read back wherever no quote follows them. -/
def Legible (dialect : Dialect) (tokens : List Token) : Prop :=
  ∀ rest, dialect.IsClear rest →
    dialect.scanFrom .outside ((dialect.write tokens).toList ++ rest) =
      (dialect.scanFrom .outside rest).map (tokens.flatMap Token.lexemes ++ ·)

@[simp]
theorem toList_write_cons (token : Token) (tokens : List Token) :
    (dialect.write (token :: tokens)).toList =
      (dialect.writeToken token).toList ++ (dialect.write tokens).toList := by
  rw [write, List.map_cons, String.join_cons, String.toList_append]
  rfl

@[simp]
theorem toList_write_append (first second : List Token) :
    (dialect.write (first ++ second)).toList =
      (dialect.write first).toList ++ (dialect.write second).toList := by
  rw [write, List.map_append, String.join_append, String.toList_append]
  rfl

theorem isClear_nil : dialect.IsClear [] := by
  intro _ first
  cases first

/-- Legible tokens that are a whole text are read back from it. -/
theorem Legible.scan_write {tokens : List Token} (legible : dialect.Legible tokens) :
    dialect.scan (dialect.write tokens) = some (tokens.flatMap Token.lexemes) := by
  have read := legible [] isClear_nil
  rw [List.append_nil] at read
  rw [scan, read]
  exact congrArg some (List.append_nil _)

theorem legible_nil : dialect.Legible [] := by
  intro rest _
  exact Option.map_id'.symm

theorem Legible.verbatim_cons {text : String} {tokens : List Token}
    (plain : dialect.IsPlainText text) (legible : dialect.Legible tokens) :
    dialect.Legible (.verbatim text :: tokens) := by
  intro rest clear
  rw [toList_write_cons, List.append_assoc, writeToken, scanFrom_plain plain, legible rest clear,
    Option.map_map]
  simp only [Function.comp_def, List.flatMap_cons, Token.lexemes, List.append_assoc]

theorem legible_verbatim {text : String} (plain : dialect.IsPlainText text) :
    dialect.Legible [.verbatim text] :=
  legible_nil.verbatim_cons plain

theorem legible_identifier (name : String) : dialect.Legible [.identifier name] := by
  intro rest clear
  rw [toList_write_cons, writeToken, toList_quoteIdentifier, List.append_assoc]
  have read := scanFrom_quoted .identifier name.toList clear
  rw [Quotation.lexeme, String.ofList_toList] at read
  simpa [write, Token.lexemes] using read

theorem legible_string (value : String) : dialect.Legible [.string value] := by
  intro rest clear
  rw [toList_write_cons, writeToken, toList_quoteString, List.append_assoc]
  have read := scanFrom_quoted .string value.toList clear
  rw [Quotation.lexeme, String.ofList_toList] at read
  simpa [write, Token.lexemes] using read

/-- A text of its own that opens no quote closes the quoted token before it. -/
theorem isClear_verbatim {text : String} (plain : dialect.IsPlainText text)
    (nonempty : text ≠ "") (rest : List Char) : dialect.IsClear (text.toList ++ rest) := by
  obtain ⟨c, text', starts⟩ := List.exists_cons_of_ne_nil
    (show text.toList ≠ [] from fun empty => nonempty (String.toList_inj.mp empty))
  intro first found
  rw [starts] at found
  cases found
  exact plain c (starts ▸ List.mem_cons_self)

/-- Whether tokens start with a text of their own, if they start at all. -/
def StartsPlain (dialect : Dialect) (tokens : List Token) : Prop :=
  tokens = [] ∨ ∃ text rest, tokens = .verbatim text :: rest ∧ text ≠ "" ∧
    dialect.IsPlainText text

theorem startsPlain_verbatim {text : String} (plain : dialect.IsPlainText text)
    (nonempty : text ≠ "") (rest : List Token) :
    dialect.StartsPlain (.verbatim text :: rest) :=
  .inr ⟨text, rest, rfl, nonempty, plain⟩

theorem StartsPlain.append {first second : List Token} (left : dialect.StartsPlain first)
    (right : dialect.StartsPlain second) : dialect.StartsPlain (first ++ second) := by
  rcases left with rfl | ⟨text, rest, rfl, nonempty, plain⟩
  · exact right
  · exact startsPlain_verbatim plain nonempty _

theorem StartsPlain.flatMap {α : Type} {items : List α} {tokens : α → List Token}
    (starts : ∀ item ∈ items, dialect.StartsPlain (tokens item)) :
    dialect.StartsPlain (items.flatMap tokens) := by
  induction items with
  | nil => exact .inl rfl
  | cons first rest inductionHypothesis =>
      rw [List.forall_mem_cons] at starts
      exact starts.1.append (inductionHypothesis starts.2)

theorem StartsPlain.isClear {tokens : List Token} (starts : dialect.StartsPlain tokens)
    {rest : List Char} (clear : dialect.IsClear rest) :
    dialect.IsClear ((dialect.write tokens).toList ++ rest) := by
  rcases starts with rfl | ⟨text, others, rfl, nonempty, plain⟩
  · exact clear
  · rw [toList_write_cons, List.append_assoc]
    exact isClear_verbatim plain nonempty _

/-- Legible tokens may follow each other where a text of its own comes first. -/
theorem Legible.append {first second : List Token} (left : dialect.Legible first)
    (right : dialect.Legible second) (starts : dialect.StartsPlain second) :
    dialect.Legible (first ++ second) := by
  intro rest clear
  rw [toList_write_append, List.append_assoc, left _ (starts.isClear clear), right rest clear,
    Option.map_map]
  simp only [Function.comp_def, List.flatMap_append, List.append_assoc]

/-- Legible tokens are joined by a text of its own. -/
theorem Legible.append_verbatim {first second : List Token} {text : String}
    (left : dialect.Legible first) (plain : dialect.IsPlainText text) (nonempty : text ≠ "")
    (right : dialect.Legible second) : dialect.Legible (first ++ .verbatim text :: second) :=
  left.append (right.verbatim_cons plain) (startsPlain_verbatim plain nonempty second)

/-- Legible tokens that each start with a text of their own may stand in a row. -/
theorem Legible.flatMap {α : Type} {items : List α} {tokens : α → List Token}
    (each : ∀ item ∈ items, dialect.Legible (tokens item))
    (starts : ∀ item ∈ items, dialect.StartsPlain (tokens item)) :
    dialect.Legible (items.flatMap tokens) := by
  induction items with
  | nil => exact legible_nil
  | cons first rest inductionHypothesis =>
      rw [List.forall_mem_cons] at each starts
      exact each.1.append (inductionHypothesis each.2 starts.2) (.flatMap starts.2)

theorem Legible.joinTokens {separator : String} (plain : dialect.IsPlainText separator)
    (nonempty : separator ≠ "") {lists : List (List Token)}
    (each : ∀ tokens ∈ lists, dialect.Legible tokens) :
    dialect.Legible (joinTokens separator lists) := by
  induction lists with
  | nil => exact legible_nil
  | cons first rest inductionHypothesis =>
      rw [List.forall_mem_cons] at each
      cases rest with
      | nil => exact each.1
      | cons second rest =>
          exact each.1.append_verbatim plain nonempty (inductionHypothesis each.2)

end Dialect

end Rollup.Sql
