import Mailroom.Yaml.Lexeme
/-!
  Mailroom.Yaml.Lexer
  ────────────────────────────────
  **FROM A TEXT TO ITS TOKENS.**

  A block opens where a line is indented more than the block around it, and is
  closed by the first line that is indented less.  A key need not be announced:
  what starts a line or an entry may turn out to be a key by the colon behind it,
  on the same line and within 1024 characters.  Its announcement is then put in
  front of it.
-/
namespace Mailroom.Yaml

/-! ## §1. The state. -/

/-- Something that may turn out to be a key: how many tokens come before it,
where it starts, and whether nothing else can stand there. -/
structure Candidate where
  number : Nat
  index : Nat
  line : Nat
  column : Nat
  required : Bool
  deriving Repr

/-- The state of the lexer. -/
structure Lexer where
  cursor : Cursor
  /-- The tokens so far, the last first. -/
  tokens : List Token := []
  /-- The candidate of the block, where no bracket is open. -/
  outer : Option Candidate := none
  /-- The candidates inside the open brackets, the innermost first. -/
  inner : List (Option Candidate) := []
  /-- The indentation of the innermost block, and of those around it. -/
  indent : Int := -1
  indents : List Int := []
  /-- Whether a key may start at the cursor. -/
  mayKey : Bool := true

/-- Tokens in the order of the text, and the fault that whoever needs another one meets. -/
structure Tokens where
  list : List Token
  ending : Fault := .malformed
  deriving Repr, DecidableEq

namespace Lexer

/-- Whether a bracket is open. -/
def inFlow (s : Lexer) : Bool := !s.inner.isEmpty

/-- The state with one more token. -/
def push (s : Lexer) (t : Token) : Lexer := { s with tokens := t :: s.tokens }

/-- The candidate at the innermost level. -/
def candidate? (s : Lexer) : Option Candidate :=
  match s.inner with
  | c :: _ => c
  | [] => s.outer

/-- The state with another candidate at the innermost level. -/
def setCandidate (s : Lexer) (c : Option Candidate) : Lexer :=
  match s.inner with
  | _ :: rest => { s with inner := c :: rest }
  | [] => { s with outer := c }

/-! ## §2. Indentation. -/

/-- Closes the blocks that are indented more than a column. -/
def closeBlocks (column : Int) : List Int → Lexer → Lexer
  | [], s => s
  | around :: rest, s =>
    if s.indent > column then
      closeBlocks column rest { s with indent := around, indents := rest, tokens := .blockEnd :: s.tokens }
    else s

/-- Closes blocks up to a column; inside brackets indentation does not matter. -/
def unwind (s : Lexer) (column : Int) : Lexer :=
  if s.inFlow then s else closeBlocks column s.indents s

/-- Opens a block at a column, if that is indented more. -/
def openBlock? (s : Lexer) (column : Int) : Option Lexer :=
  if s.indent < column then some { s with indent := column, indents := s.indent :: s.indents }
  else none

/-- Opens a block at a column, if that is indented more, with a token. -/
def openBlock (s : Lexer) (column : Int) (t : Token) : Lexer :=
  match s.openBlock? column with
  | some s => s.push t
  | none => s

/-! ## §3. Candidates. -/

/-- Whether a candidate can still turn out to be a key. -/
def isFresh (c : Cursor) (k : Candidate) : Bool := k.line == c.line && c.index - k.index ≤ 1024

/-- Drops the candidates that are behind; one that had to be a key must not be
dropped. -/
def dropStale (s : Lexer) : Except Fault Lexer := do
  let stale := s.outer.filter fun k => !isFresh s.cursor k
  expect !((stale.map (·.required)).getD false)
  return { s with
    outer := s.outer.filter (isFresh s.cursor)
    inner := s.inner.map fun k => k.filter (isFresh s.cursor) }

/-- Gives up the candidate at the innermost level. -/
def dropCandidate (s : Lexer) : Except Fault Lexer := do
  expect !((s.candidate?.map (·.required)).getD false)
  return s.setCandidate none

/-- What is at the cursor may turn out to be a key. -/
def saveCandidate (s : Lexer) : Except Fault Lexer := do
  if s.mayKey then
    let s ← s.dropCandidate
    let c := s.cursor
    return s.setCandidate (some {
      number := s.tokens.length, index := c.index, line := c.line, column := c.column
      required := !s.inFlow && s.indent == c.column })
  else return s

/-- The tokens with some put behind the first `number` ones; both lists have the
last token first. -/
def insertAt (number : Nat) (new tokens : List Token) : List Token :=
  tokens.take (tokens.length - number) ++ new ++ tokens.drop (tokens.length - number)

/-! ## §4. Single tokens. -/

/-- A token that is one character long. -/
def mark (s : Lexer) (t : Token) : Lexer := { s.push t with cursor := s.cursor.step }

/-- The end of the text. -/
def finish (s : Lexer) : Except Fault Lexer := do
  let s ← (s.unwind (-1)).dropCandidate
  return s.push .streamEnd

/-- A directive. -/
def takeDirective (s : Lexer) : Except Fault Lexer := do
  let s ← (s.unwind (-1)).dropCandidate
  let (t, c) ← directive s.cursor
  return { s.push t with cursor := c, mayKey := false }

/-- A separator of documents. -/
def takeSeparator (s : Lexer) (t : Token) : Except Fault Lexer := do
  let s ← (s.unwind (-1)).dropCandidate
  return { s.push t with cursor := s.cursor.skip 3, mayKey := false }

/-- An opening bracket. -/
def takeOpening (s : Lexer) (t : Token) : Except Fault Lexer := do
  let s ← s.saveCandidate
  return { s.mark t with inner := none :: s.inner, mayKey := true }

/-- A closing bracket. -/
def takeClosing (s : Lexer) (t : Token) : Except Fault Lexer := do
  expect s.inFlow
  let s ← s.dropCandidate
  return { s.mark t with inner := s.inner.drop 1, mayKey := false }

/-- A comma inside brackets. -/
def takeComma (s : Lexer) : Except Fault Lexer := do
  let s ← s.dropCandidate
  return { s.mark .comma with mayKey := true }

/-- The hyphen in front of an entry. -/
def takeEntry (s : Lexer) : Except Fault Lexer := do
  expect (s.inFlow || s.mayKey)
  let s := if s.inFlow then s else s.openBlock s.cursor.column .sequenceStart
  let s ← s.dropCandidate
  return { s.mark .entry with mayKey := true }

/-- The question mark in front of a key. -/
def takeKey (s : Lexer) : Except Fault Lexer := do
  expect (s.inFlow || s.mayKey)
  let s := if s.inFlow then s else s.openBlock s.cursor.column .mappingStart
  let s ← s.dropCandidate
  return { s.mark .key with mayKey := !s.inFlow }

/-- The colon in front of a value. -/
def takeValue (s : Lexer) : Except Fault Lexer := do
  match s.candidate? with
  | some k =>
    let s := s.setCandidate none
    let (s, new) :=
      if s.inFlow then (s, [Token.key])
      else match s.openBlock? k.column with
        | some s => (s, [.key, .mappingStart])
        | none => (s, [.key])
    let s := { s with tokens := insertAt k.number new s.tokens }
    return { s.mark .value with mayKey := false }
  | none =>
    expect (s.inFlow || s.mayKey)
    let s := if s.inFlow then s else s.openBlock s.cursor.column .mappingStart
    let s ← s.dropCandidate
    return { s.mark .value with mayKey := !s.inFlow }

/-- A lexeme that may turn out to be a key. -/
def takeLexeme (s : Lexer) (read : Lexeme Token) : Except Fault Lexer := do
  let s ← s.saveCandidate
  let (t, c) ← read s.cursor
  return { s.push t with cursor := c, mayKey := false }

/-- A block scalar. -/
def takeBlockScalar (s : Lexer) (fold : Bool) : Except Fault Lexer := do
  let s ← s.dropCandidate
  let (t, c) ← blockScalar fold s.indent s.cursor
  return { s.push t with cursor := c, mayKey := true }

/-- A plain scalar. -/
def takePlain (s : Lexer) : Except Fault Lexer := do
  let s ← s.saveCandidate
  let ((t, broken), c) := plainScalar s.inFlow s.indent s.cursor
  return { s.push t with cursor := c, mayKey := broken }

/-! ## §5. All tokens. -/

/-- Skips blanks, comments and line breaks, and says whether there was a line
break. -/
def skipSpace : Nat → Cursor → Cursor × Bool
  | 0, c => (c, false)
  | fuel + 1, c =>
    let c := c.skipBlanks
    let c := if c.isAt '#' then c.skipLine else c
    match c.lineBreak? with
    | some (_, c) => ((skipSpace fuel c).1, true)
    | none => (c, false)

/-- The characters that cannot start a plain scalar. -/
def isIndicator (c : Char) : Bool := "-?:,[]\x7b\x7d#&*!|>'\"%@".toList.contains c || c.toNat == 0x60

/-- Whether a plain scalar starts at the cursor. -/
def startsPlain (s : Lexer) (x : Char) : Bool :=
  !(endsToken (some x) || isIndicator x)
    || (!endsToken (s.cursor.ahead? 1) && (x == '-' || (!s.inFlow && (x == '?' || x == ':'))))

/-- Whether an indicator stands alone, or anywhere inside brackets. -/
def standsAlone (s : Lexer) : Bool := s.inFlow || endsToken (s.cursor.ahead? 1)

/-- Moves to the next token. -/
def advance (s : Lexer) : Except Fault Lexer := do
  let c := s.cursor
  let c := if c.index == 0 && c.isAt byteOrderMark then c.step else c
  let (c, broken) := skipSpace (c.rest.length + 1) c
  let s := { s with cursor := c, mayKey := s.mayKey || (broken && !s.inFlow) }
  return (← s.dropStale).unwind c.column

/-- Reads the token at the cursor, which is at none of the ends. -/
def take (s : Lexer) (x : Char) : Except Fault Lexer :=
  let c := s.cursor
  if x == '%' && c.column == 0 then s.takeDirective
  else if c.column == 0 && c.atSeparator then
    s.takeSeparator (if x == '-' then .documentStart else .documentEnd)
  else if x == '[' then s.takeOpening .openBracket
  else if x == '\x7b' then s.takeOpening .openBrace
  else if x == ']' then s.takeClosing .closeBracket
  else if x == '\x7d' then s.takeClosing .closeBrace
  else if x == ',' then s.takeComma
  else if x == '-' && endsToken (c.ahead? 1) then s.takeEntry
  else if x == '?' && s.standsAlone then s.takeKey
  else if x == ':' && s.standsAlone then s.takeValue
  else if x == '*' then s.takeLexeme fun c => do
    let (name, c) ← anchorName c
    return (.alias name, c)
  else if x == '&' then s.takeLexeme fun c => do
    let (name, c) ← anchorName c
    return (.anchor name, c)
  else if x == '!' then s.takeLexeme tagToken
  else if x == '|' && !s.inFlow then s.takeBlockScalar false
  else if x == '>' && !s.inFlow then s.takeBlockScalar true
  else if x == '\'' then s.takeLexeme (quotedScalar false)
  else if x == '"' then s.takeLexeme (quotedScalar true)
  else if s.startsPlain x then s.takePlain
  else .error .malformed

/-- How many tokens can be handed out: those in front of the first that may turn out to be
a key. -/
def settled (s : Lexer) : Nat :=
  let open_ := (s.outer :: s.inner).filterMap fun k => k.filter (isFresh s.cursor)
  (open_.map (·.number)).foldl min s.tokens.length

/-- Moves to the next token and reads it; says whether that was the end of the text. -/
def step (s : Lexer) : Except Fault (Bool × Lexer) := do
  let s ← s.advance
  match s.cursor.head? with
  | none => return (true, ← s.finish)
  | some x => return (false, ← s.take x)

/-- The tokens up to the end of the text, or up to a fault. -/
def tokensFrom : Nat → Lexer → Tokens
  | 0, s => { list := s.tokens.reverse }
  | fuel + 1, s =>
    match s.step with
    | .error f => { list := s.tokens.reverse.take s.settled, ending := f }
    | .ok (true, s) => { list := s.tokens.reverse }
    | .ok (false, s) => tokensFrom fuel s

end Lexer

/-- A character that may stand in a YAML text. -/
def isPrintable (c : Char) : Bool :=
  let n := c.toNat
  n == 9 || n == 10 || n == 13 || (0x20 ≤ n && n ≤ 0x7E) || n == 0x85 || (0xA0 ≤ n && n ≤ 0xFFFD)
    || 0x10000 ≤ n

/-- Where the portion of a text starts that a character belongs to: texts are read in portions of
4096 characters, and the first two at once. -/
def portionStart (index : Nat) : Nat := if index < 8192 then 0 else index / 4096 * 4096

/-- The tokens of a text.  A portion with a character that may not stand in a YAML text is
malformed as a whole, and so is the document, if no other fault is met in front of it. -/
def tokensOf (cs : List Char) : Tokens :=
  match cs.findIdx? fun c => !isPrintable c with
  | none => Lexer.tokensFrom (cs.length + 2) { cursor := { rest := cs } }
  | some index =>
    let front := cs.take (portionStart index)
    let tokens := Lexer.tokensFrom (front.length + 2) { cursor := { rest := front } }
    if tokens.ending == .malformed then { list := [] } else tokens

end Mailroom.Yaml
