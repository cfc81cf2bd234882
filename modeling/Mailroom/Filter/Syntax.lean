import Mailroom.Filter.Token
import Mailroom.Filter.Expr
import Mailroom.Text.Quoted
/-!
  Mailroom.Filter.Syntax
  ────────────────────────────────
  **READING TAG FILTERS.**

  The grammar, from the loosest to the tightest binding:

      or_expr  := and_expr (OR and_expr)*
      and_expr := not_expr (AND not_expr)*
      not_expr := NOT not_expr | atom
      atom     := '(' or_expr ')' | TAG

  AND and OR associate to the left.  Each parsing function takes the tokens
  that are left and hands back a tree with strictly fewer tokens, or says which
  token cannot stand where it stands.
-/
namespace Mailroom.Filter

/-! ## §1. Faults. -/

/-- What is wrong with a filter. -/
inductive Fault where
  /-- A token after a complete filter. -/
  | trailing (found : Token)
  /-- The filter ends where an operand must follow. -/
  | operandMissing
  /-- The filter ends inside the parenthesis opened at a token. -/
  | unclosed (opened : Nat)
  /-- A token that should have been a closing parenthesis. -/
  | closingExpected (found : Token)
  /-- A token that cannot start an operand. -/
  | operandExpected (found : Token)
  deriving Repr, DecidableEq

namespace Fault

/-- The offending token; nothing at the end of the filter. -/
def token? : Fault → Option Token
  | trailing t | closingExpected t | operandExpected t => some t
  | operandMissing | unclosed _ => none

/-- What is said about the fault. -/
def detail : Fault → String
  | trailing t => s!"unexpected {Text.quoted t.text} after complete expression"
  | operandMissing => "expected a tag name or '(' but the expression ended"
  | unclosed opened => s!"'(' at token {opened} is never closed"
  | closingExpected t => s!"expected ')' but found {Text.quoted t.text}"
  | operandExpected t => s!"expected a tag name or '(' but found {Text.quoted t.text}"

end Fault

/-- A filter that cannot be read, and why. -/
structure SyntaxError where
  filter : String
  fault : Fault
  deriving Repr, DecidableEq

namespace SyntaxError

/-- The index of the offending token; nothing at the end of the filter. -/
def position? (e : SyntaxError) : Option Nat := e.fault.token?.map (·.position)

/-- The text of the offending token; nothing at the end of the filter. -/
def tokenText? (e : SyntaxError) : Option String := e.fault.token?.map (·.text)

/-- The message shown for the error. -/
def message (e : SyntaxError) : String :=
  let place := match e.position? with
    | some p => s!"token {p}"
    | none => "end of input"
  s!"Invalid tag filter {Text.quoted e.filter}: {e.fault.detail} (at {place})"

end SyntaxError

/-! ## §2. Parsing. -/

/-- A tree read from the front of `ts`, and the tokens after it. -/
structure Parsed (ts : List Token) where
  expr : Expr
  rest : List Token
  shorter : rest.length < ts.length

mutual

/-- Reads an `or_expr`. -/
def parseOr (ts : List Token) : Except Fault (Parsed ts) :=
  match parseAnd ts with
  | .error f => .error f
  | .ok p => orTail ts p
termination_by (ts.length, 4)
decreasing_by
  · exact Prod.Lex.right _ (by decide)
  · exact Prod.Lex.left _ _ p.shorter

/-- Reads `(OR and_expr)*` after the tree of `p`. -/
def orTail (ts : List Token) (p : Parsed ts) : Except Fault (Parsed ts) :=
  match h : p.rest with
  | [] => .ok p
  | t :: rest =>
    if t.kind = .or then
      match parseAnd rest with
      | .error f => .error f
      | .ok q =>
        orTail ts ⟨.or p.expr q.expr, q.rest, by
          have := p.shorter; have := q.shorter; simp [h] at *; omega⟩
    else .ok p
termination_by (p.rest.length, 5)
decreasing_by
  · rw [h]; exact Prod.Lex.left _ _ (Nat.lt_succ_self _)
  · have := q.shorter; rw [h]; exact Prod.Lex.left _ _ (Nat.lt_succ_of_lt this)

/-- Reads an `and_expr`. -/
def parseAnd (ts : List Token) : Except Fault (Parsed ts) :=
  match parseNot ts with
  | .error f => .error f
  | .ok p => andTail ts p
termination_by (ts.length, 2)
decreasing_by
  · exact Prod.Lex.right _ (by decide)
  · exact Prod.Lex.left _ _ p.shorter

/-- Reads `(AND not_expr)*` after the tree of `p`. -/
def andTail (ts : List Token) (p : Parsed ts) : Except Fault (Parsed ts) :=
  match h : p.rest with
  | [] => .ok p
  | t :: rest =>
    if t.kind = .and then
      match parseNot rest with
      | .error f => .error f
      | .ok q =>
        andTail ts ⟨.and p.expr q.expr, q.rest, by
          have := p.shorter; have := q.shorter; simp [h] at *; omega⟩
    else .ok p
termination_by (p.rest.length, 3)
decreasing_by
  · rw [h]; exact Prod.Lex.left _ _ (Nat.lt_succ_self _)
  · have := q.shorter; rw [h]; exact Prod.Lex.left _ _ (Nat.lt_succ_of_lt this)

/-- Reads a `not_expr`. -/
def parseNot (ts : List Token) : Except Fault (Parsed ts) :=
  match ts with
  | [] => .error .operandMissing
  | t :: rest =>
    if t.kind = .not then
      match parseNot rest with
      | .error f => .error f
      | .ok p => .ok ⟨.not p.expr, p.rest, Nat.lt_succ_of_lt p.shorter⟩
    else parseAtom (t :: rest)
termination_by (ts.length, 1)

/-- Reads an `atom`. -/
def parseAtom (ts : List Token) : Except Fault (Parsed ts) :=
  match ts with
  | [] => .error .operandMissing
  | t :: rest =>
    if t.kind = .lparen then
      match parseOr rest with
      | .error f => .error f
      | .ok p =>
        match h : p.rest with
        | [] => .error (.unclosed t.position)
        | c :: after =>
          if c.kind = .rparen then
            .ok ⟨p.expr, after, by have := p.shorter; simp [h] at *; omega⟩
          else .error (.closingExpected c)
    else if t.kind = .tag then .ok ⟨.tag t.text, rest, Nat.lt_succ_self _⟩
    else .error (.operandExpected t)
termination_by (ts.length, 0)

end

/-- Reads a whole token list. -/
def parseTokens (ts : List Token) : Except Fault Expr :=
  match parseOr ts with
  | .error f => .error f
  | .ok p =>
    match p.rest with
    | [] => .ok p.expr
    | t :: _ => .error (.trailing t)

/-- Reads a filter text. -/
def parse (filter : String) : Except SyntaxError Expr :=
  match parseTokens (tokenize filter) with
  | .ok e => .ok e
  | .error f => .error ⟨filter, f⟩

end Mailroom.Filter
