/-!
# Tokens

The text of a statement in the pieces that a dialect writes differently: names and
strings, which it quotes, and everything else, which stands as it is.
-/

namespace Rollup.Sql

/-- A piece of a statement's text. -/
inductive Token where
  | verbatim (text : String)
  | identifier (name : String)
  | string (value : String)
  deriving DecidableEq

/-- Lists of tokens with a separator between them. -/
def joinTokens (separator : String) : List (List Token) → List Token
  | [] => []
  | [tokens] => tokens
  | tokens :: rest => tokens ++ .verbatim separator :: joinTokens separator rest

/-- Two spaces for each level. -/
def indentation (level : Nat) : String :=
  String.ofList (List.replicate (2 * level) ' ')

/-- A text in quotes, each quote inside it written twice. -/
def quoted (quote : Char) (text : String) : String :=
  String.ofList (quote :: (text.toList.flatMap fun c => if c = quote then [c, c] else [c]) ++
    [quote])

end Rollup.Sql
