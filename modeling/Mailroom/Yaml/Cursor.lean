/-!
  Mailroom.Yaml.Cursor
  ────────────────────────────────
  **A PLACE IN A TEXT.**

  A cursor holds the text that is still to be read and says where it starts: how
  many characters, and how many lines, came before, and in which column it is.
-/
namespace Mailroom.Yaml

/-! ## §1. Classes of characters. -/

/-- A line break. -/
def isBreak (c : Char) : Bool :=
  c == '\n' || c == '\r' || c.toNat == 0x85 || c.toNat == 0x2028 || c.toNat == 0x2029

/-- The mark that may stand at the very start of a text. -/
def byteOrderMark : Char := Char.ofNat 0xFEFF

/-- A line break or the end of the text. -/
def endsLine : Option Char → Bool
  | none => true
  | some c => isBreak c

/-- A blank, a line break or the end of the text. -/
def endsWord : Option Char → Bool
  | none => true
  | some c => c == ' ' || isBreak c

/-- A blank, a tab, a line break or the end of the text. -/
def endsToken : Option Char → Bool
  | none => true
  | some c => c == ' ' || c == '\t' || isBreak c

/-- A character of a name. -/
def isNameChar (c : Char) : Bool := c.isAlphanum || c == '-' || c == '_'

/-! ## §2. Cursors. -/

/-- A place in a text. -/
structure Cursor where
  rest : List Char
  index : Nat := 0
  line : Nat := 0
  column : Nat := 0
  deriving Repr

namespace Cursor

/-- The character at the cursor. -/
def head? (c : Cursor) : Option Char := c.rest.head?

/-- The `n`-th character behind the one at the cursor. -/
def ahead? (c : Cursor) (n : Nat) : Option Char := c.rest[n]?

/-- Whether a given character is at the cursor. -/
def isAt (c : Cursor) (x : Char) : Bool := c.head? == some x

/-- The cursor one character further. -/
def step (c : Cursor) : Cursor :=
  match c.rest with
  | [] => c
  | x :: rest =>
    if isBreak x && !(x == '\r' && rest.head? == some '\n') then
      { rest, index := c.index + 1, line := c.line + 1, column := 0 }
    else
      { rest, index := c.index + 1, line := c.line
        column := if x == byteOrderMark then c.column else c.column + 1 }

/-- The cursor `n` characters further. -/
def skip (c : Cursor) : Nat → Cursor
  | 0 => c
  | n + 1 => c.step.skip n

/-- The longest run of characters that satisfy `p`, and the cursor behind it. -/
def run (c : Cursor) (p : Char → Bool) : List Char × Cursor :=
  let cs := c.rest.takeWhile p
  (cs, c.skip cs.length)

/-- The cursor behind all blanks. -/
def skipBlanks (c : Cursor) : Cursor := (c.run (· == ' ')).2

/-- The cursor at the end of the line. -/
def skipLine (c : Cursor) : Cursor := (c.run fun x => !isBreak x).2

/-- The cursor behind a line break, if it is at one, and the character that the
break stands for. -/
def lineBreak? (c : Cursor) : Option (Char × Cursor) :=
  match c.rest with
  | '\r' :: '\n' :: _ => some ('\n', c.skip 2)
  | x :: _ =>
    if x.toNat == 0x2028 || x.toNat == 0x2029 then some (x, c.step)
    else if isBreak x then some ('\n', c.step)
    else none
  | [] => none

/-- The cursor behind a line break, if it is at one. -/
def skipBreak (c : Cursor) : Cursor := ((c.lineBreak?).map (·.2)).getD c

/-- Whether one of the two separators of documents is at the cursor. -/
def atSeparator (c : Cursor) : Bool :=
  match c.rest with
  | a :: b :: d :: rest =>
    ((a == '-' && b == '-' && d == '-') || (a == '.' && b == '.' && d == '.'))
      && endsToken rest.head?
  | _ => false

end Cursor

end Mailroom.Yaml
