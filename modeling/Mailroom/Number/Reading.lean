import Mailroom.Number.Binary64
import Mailroom.Text.Blank
import Mailroom.Text.DecimalDigit
import Mailroom.Text.Case
/-!
  Mailroom.Number.Reading
  ────────────────────────────────
  **READING INTEGERS AND DECIMALS FROM TEXT.**

  Both forms may be surrounded by white space, start with a sign, use the
  decimal digits of any script and carry single underscores between digits.
  A decimal may have a fraction and an exponent, or be `inf`, `infinity` or
  `nan` in any letter case.
-/
namespace Mailroom.Number

open Mailroom.Text

/-! ## §1. Digit groups. -/

/-- The most digits an integer text may have. -/
def maxDigits : Nat := 4300

/-- The digits that may follow a digit, single underscores between them, and
the rest of the text. -/
def digitTail : List Char → List Nat × List Char
  | '_' :: c :: cs =>
    match digitValue? c with
    | some d => let (ds, rest) := digitTail cs; (d :: ds, rest)
    | none => ([], '_' :: c :: cs)
  | c :: cs =>
    match digitValue? c with
    | some d => let (ds, rest) := digitTail cs; (d :: ds, rest)
    | none => ([], c :: cs)
  | [] => ([], [])

/-- Digits separated by single underscores, and the rest of the text. -/
def digitGroup : List Char → List Nat × List Char
  | [] => ([], [])
  | c :: cs =>
    match digitValue? c with
    | some d => let (ds, rest) := digitTail cs; (d :: ds, rest)
    | none => ([], c :: cs)

/-- A sign, if there is one, and the rest. -/
def takeSign : List Char → Bool × List Char
  | '-' :: cs => (true, cs)
  | '+' :: cs => (false, cs)
  | cs => (false, cs)

/-! ## §2. Integers. -/

/-- Why a text is not read as an integer. -/
inductive IntegerFault where
  /-- The text is not an integer literal. -/
  | malformed
  /-- The literal has more digits than are accepted. -/
  | tooLong (digits : Nat)
  deriving Repr, DecidableEq

/-- Reads an integer. -/
def readInteger (s : List Char) : Except IntegerFault Int :=
  let (negative, body) := takeSign (trimWhile isTrimmed s)
  match digitGroup body with
  | ([], _) => .error .malformed
  | (ds, []) =>
    if maxDigits < ds.length then .error (.tooLong ds.length)
    else
      let n : Int := ofDigits ds
      .ok (if negative then -n else n)
  | _ => .error .malformed

/-! ## §3. Decimals. -/

/-- The exponent part, if the text is one: `e`, a sign and digits. -/
def exponentPart? : List Char → Option Int
  | [] => some 0
  | c :: cs =>
    if c == 'e' || c == 'E' then
      let (negative, body) := takeSign cs
      match digitGroup body with
      | ([], _) => none
      | (ds, []) => some (if negative then -(ofDigits ds : Int) else ofDigits ds)
      | _ => none
    else none

/-- The names of the numbers that are not finite. -/
def namedNumber? (negative : Bool) (s : List Char) : Option Binary64 :=
  let w := String.ofList (s.map lowerAscii)
  if w == "inf" || w == "infinity" then some (.infinite negative)
  else if w == "nan" then some .nan
  else none

/-- Reads a decimal number and rounds it to binary64. -/
def readDecimal? (s : List Char) : Option Binary64 :=
  let (negative, body) := takeSign (trimWhile isTrimmed s)
  match namedNumber? negative body with
  | some x => some x
  | none =>
    let (whole, rest) := digitGroup body
    let (fraction, rest) := match rest with
      | '.' :: r => digitGroup r
      | _ => ([], rest)
    if whole.isEmpty && fraction.isEmpty then none
    else match exponentPart? rest with
      | none => none
      | some x =>
        some (Binary64.ofDecimal negative (ofDigits (whole ++ fraction)) (x - fraction.length))

end Mailroom.Number
