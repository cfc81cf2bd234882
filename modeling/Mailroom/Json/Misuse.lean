import Mailroom.Json.Basic
import Mailroom.Number.Reading
/-!
  Mailroom.Json.Misuse
  ────────────────────────────────
  **VALUES THAT DO NOT HAVE THE SHAPE A READER COUNTS ON.**

  Nobody checks the records of the directory or the answers of the classifier
  before they are read.  `Misuse` says in what way a value could not be used;
  `toInt` reads the integer that a value stands for.
-/
namespace Mailroom.Json

open Mailroom.Number

/-! ## §1. Ways to fail. -/

/-- Why a value could not be used. -/
inductive Misuse where
  /-- An operation that values of this shape do not have. -/
  | noMember (shape : Shape) (member : String)
  /-- A field asked of a value that has no fields. -/
  | noFields (shape : Shape)
  /-- A field that is missing. -/
  | missingField (key : String)
  /-- Items asked of a value that has none. -/
  | noItems (shape : Shape)
  /-- A value that is not a number. -/
  | notNumeric (shape : Shape)
  /-- A text that is not an integer. -/
  | notInteger (text : String)
  /-- A text with more digits than are accepted. -/
  | tooManyDigits (digits : Nat)
  /-- An infinity where an integer is needed. -/
  | infinity
  /-- Not-a-number where an integer is needed. -/
  | undefinedNumber
  deriving Repr, DecidableEq

/-- The first `n` characters of a text. -/
def cut (n : Nat) (s : String) : String := String.ofList (s.toList.take n)

/-- The message for a misuse. -/
def Misuse.message : Misuse → String
  | noMember shape member => s!"'{shape.label}' object has no attribute '{member}'"
  | noFields Shape.list => "list indices must be integers or slices, not str"
  | noFields Shape.text => "string indices must be integers, not 'str'"
  | noFields shape => s!"'{shape.label}' object is not subscriptable"
  | missingField key => Text.quoted key
  | noItems shape => s!"'{shape.label}' object is not iterable"
  | notNumeric shape =>
    "int() argument must be a string, a bytes-like object or a real number, not "
      ++ s!"'{shape.label}'"
  | notInteger s => "invalid literal for int() with base 10: " ++ cut 200 (Text.quoted s)
  | tooManyDigits digits =>
    s!"Exceeds the limit ({maxDigits} digits) for integer string conversion: value has "
      ++ s!"{digits} digits; use sys.set_int_max_str_digits() to increase the limit"
  | infinity => "cannot convert float infinity to integer"
  | undefinedNumber => "cannot convert float NaN to integer"

/-! ## §2. Reading. -/

/-- The integer that a value stands for: a truth value is 0 or 1, a decimal is
cut, a text is read. -/
def toInt : Json → Except Misuse Int
  | .bool b => .ok (if b then 1 else 0)
  | .int n => .ok n
  | .float .nan => .error .undefinedNumber
  | .float (.infinite _) => .error .infinity
  | .float x => .ok (x.truncate?.getD 0)
  | .text s =>
    match readInteger s.toList with
    | .ok n => .ok n
    | .error .malformed => .error (.notInteger s)
    | .error (.tooLong n) => .error (.tooManyDigits n)
  | v => .error (.notNumeric v.shape)

/-- The fields of an object, asked for by the operation `member`. -/
def fieldsFor (member : String) : Json → Except Misuse (List (String × Json))
  | .object fields => .ok fields
  | v => .error (.noMember v.shape member)

/-- The text of a value, asked for by the operation `member`. -/
def textFor (member : String) : Json → Except Misuse String
  | .text s => .ok s
  | v => .error (.noMember v.shape member)

end Mailroom.Json
