import Mailroom.Text.Blank
import Mailroom.Text.Utf8
import Mailroom.Text.Quoted
import Mailroom.Number.Reading
/-!
  Mailroom.Imap.Wire
  ────────────────────────────────
  **SERVER DATA AS IT COMES OFF A CONNECTION.**

  A response is a list of items: a line, a group of a line with the literal that
  it announces, or nothing at all.  `WireFault` says how such data can fail to
  be what a reader counts on.
-/
namespace Mailroom.Imap

open Mailroom.Text Mailroom.Number

/-- Octets. -/
abbrev Octets := List UInt8

/-! ## §1. Items. -/

/-- An item of a response. -/
inductive Item where
  | absent
  | line (octets : Octets)
  | group (parts : List Octets)
  deriving Repr, DecidableEq

/-- The octets of an ASCII text. -/
def octets (s : String) : Octets := s.toList.map fun c => UInt8.ofNat c.toNat

/-- A byte of a word: a letter, a digit or an underscore. -/
def isWordByte (b : UInt8) : Bool :=
  (48 ≤ b && b ≤ 57) || (65 ≤ b && b ≤ 90) || (97 ≤ b && b ≤ 122) || b == 95

/-- An item as it is shown in messages. -/
def Item.shown : Item → String
  | absent => "None"
  | line bs => quotedBytes bs
  | group [bs] => "(" ++ quotedBytes bs ++ ",)"
  | group parts => "(" ++ ", ".intercalate (parts.map quotedBytes) ++ ")"

/-- A list of items as it is shown in messages. -/
def shownItems (items : List Item) : String := "[" ++ ", ".intercalate (items.map Item.shown) ++ "]"

/-! ## §2. Faults. -/

/-- How server data can fail to be what a reader counts on. -/
inductive WireFault where
  /-- A group of fewer than two parts. -/
  | shortGroup
  /-- A group where a line must stand. -/
  | groupForLine (member : String)
  /-- A word that is not a number. -/
  | notNumber (word : Octets)
  /-- A number with more digits than are accepted. -/
  | tooManyDigits (digits : Nat)
  deriving Repr, DecidableEq

/-- The message for a wire fault. -/
def WireFault.message : WireFault → String
  | shortGroup => "tuple index out of range"
  | groupForLine member => s!"'tuple' object has no attribute '{member}'"
  | notNumber word => "invalid literal for int() with base 10: " ++ quotedBytes word
  | tooManyDigits digits =>
    s!"Exceeds the limit ({maxDigits} digits) for integer string conversion: value has "
      ++ s!"{digits} digits; use sys.set_int_max_str_digits() to increase the limit"

/-- The number that a word states. -/
def number (word : Octets) : Except WireFault Int :=
  match readInteger (word.map fun b => if b < 128 then Char.ofNat b.toNat else replacement) with
  | .ok n => .ok n
  | .error .malformed => .error (.notNumber word)
  | .error (.tooLong n) => .error (.tooManyDigits n)

end Mailroom.Imap
