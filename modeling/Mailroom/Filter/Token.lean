import Mailroom.Text.Blank
import Mailroom.Text.Case
/-!
  Mailroom.Filter.Token
  ────────────────────────────────
  **THE TOKENS OF A TAG FILTER.**

  A filter is written as words and parentheses.  A parenthesis is a token of
  its own; any other token is a maximal run of characters that are neither
  white space nor parentheses.  The words AND, OR and NOT are operators in any
  letter case, every other word is a tag.
-/
namespace Mailroom.Filter

open Mailroom.Text

/-! ## §1. Lexemes. -/

/-- A parenthesis. -/
def isParen (c : Char) : Bool := c == '(' || c == ')'

/-- A character that can stand inside a word. -/
def isWordChar (c : Char) : Bool := !isBlank c && !isParen c

/-- The texts of the tokens of a filter, in order. -/
def lexemes : List Char → List (List Char)
  | [] => []
  | c :: cs =>
    if isBlank c then lexemes cs
    else if isParen c then [c] :: lexemes cs
    else match cs, lexemes cs with
      | d :: _, w :: ws => if isWordChar d then (c :: w) :: ws else [c] :: w :: ws
      | _, ws => [c] :: ws

/-! ## §2. Tokens. -/

/-- What a token is to the parser. -/
inductive Kind where
  | lparen | rparen | and | or | not | tag
  deriving Repr, DecidableEq

/-- The kind of a lexeme. -/
def kindOf (text : String) : Kind :=
  if text == "(" then .lparen
  else if text == ")" then .rparen
  else if isWord "AND" text then .and
  else if isWord "OR" text then .or
  else if isWord "NOT" text then .not
  else .tag

/-- A token with its index in the filter. -/
structure Token where
  kind : Kind
  text : String
  position : Nat
  deriving Repr, DecidableEq

/-- Tokens for lexemes, numbered from `start`. -/
def number (start : Nat) : List (List Char) → List Token
  | [] => []
  | w :: ws => ⟨kindOf (String.ofList w), String.ofList w, start⟩ :: number (start + 1) ws

/-- The tokens of a filter text. -/
def tokenize (filter : String) : List Token :=
  number 0 (lexemes filter.toList)

end Mailroom.Filter
