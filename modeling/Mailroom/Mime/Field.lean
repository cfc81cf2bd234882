import Mailroom.Text.Lines
import Mailroom.Text.Utf8
/-!
  Mailroom.Mime.Field
  ────────────────────────────────
  **THE HEADER FIELDS OF A MESSAGE.**

  Header lines are those that hold a name and a colon, go on with white space, or
  start with `From `, as the first line of a mailbox file does.  A field is a name
  with the text of its line and of the lines that go on with it; of several fields
  of one name the first counts.
-/
namespace Mailroom.Mime

open Mailroom.Text

/-! ## §1. Lines. -/

/-- A line of a message with its line end. -/
abbrev Line := List UInt8

/-- A character of the name of a field. -/
def isNameByte (b : UInt8) : Bool := (33 ≤ b && b ≤ 57) || (59 ≤ b && b ≤ 126)

/-- A space or a tab. -/
def isWspByte (b : UInt8) : Bool := b == 32 || b == 9

/-- The start of the first line of a message in a mailbox file. -/
def envelopeMark : Line := [70, 114, 111, 109, 32]

/-- Whether a line goes on with the field before it. -/
def isContinuation (l : Line) : Bool := (l.head?.map isWspByte).getD false

/-- Whether a line starts like one of a mailbox file. -/
def isEnvelope (l : Line) : Bool := envelopeMark.isPrefixOf l

/-- Whether a line belongs to the header. -/
def isHeaderLine (l : Line) : Bool :=
  isContinuation l || isEnvelope l || (l.dropWhile isNameByte).head? == some 58

/-! ## §2. Fields. -/

/-- A field: its name in lower case and its text without line ends. -/
structure Field where
  name : List UInt8
  value : List UInt8
  deriving Repr, DecidableEq

/-- The lower-case form of an ASCII letter. -/
def lowerByte (b : UInt8) : UInt8 := if 65 ≤ b && b ≤ 90 then b + 32 else b

/-- The octets of a line that are not part of a line end. -/
def withoutLineEnds (l : Line) : List UInt8 := l.filter fun b => b != 10 && b != 13

/-- The field that starts with a line; nothing if it has no name. -/
def startField? (l : Line) : Option Field :=
  let name := l.takeWhile (· ≠ 58)
  if name.isEmpty then none
  else some ⟨name.map lowerByte,
    withoutLineEnds (((l.drop name.length).drop 1).dropWhile isWspByte)⟩

/-- The fields of header lines, `open?` being the one that may go on, and a last
line that starts a body rather than being part of the header. -/
def fieldsFrom (first : Bool) (open? : Option Field) : List Line → List Field × Option Line
  | [] => (open?.toList, none)
  | l :: ls =>
    if isContinuation l then
      fieldsFrom false (open?.map fun f => { f with value := f.value ++ withoutLineEnds l }) ls
    else
      let (fields, back) :=
        if isEnvelope l then
          if !first && ls.isEmpty then ([], some l) else fieldsFrom false none ls
        else fieldsFrom false (startField? l) ls
      (open?.toList ++ fields, back)

/-- The text of the first field with a name. -/
def fieldValue? (name : String) (fields : List Field) : Option (List UInt8) :=
  (fields.find? (·.name == encode name)).map (·.value)

end Mailroom.Mime
