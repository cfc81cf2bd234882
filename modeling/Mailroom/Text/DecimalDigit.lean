import Mailroom.Text.Ranges
/-!
  Mailroom.Text.DecimalDigit
  ────────────────────────────────
  **DECIMAL DIGITS OF ALL SCRIPTS.**

  Every script with positional digits has ten of them in a row; the table
  lists where each row starts.
-/
namespace Mailroom.Text

/-- The zeros of the digit rows above ASCII. -/
def digitZeros : Array Nat := ((tableWords
  ["660 6f0 7c0 966 9e6 a66 ae6 b66 be6 c66 ce6 d66 de6 e50 ed0 f20 1040 1090 17e0 1810 1946",
   "19d0 1a80 1a90 1b50 1bb0 1c40 1c50 a620 a8d0 a900 a9d0 a9f0 aa50 abf0 ff10 104a0 10d30 11066",
   "110f0 11136 111d0 112f0 11450 114d0 11650 116c0 11730 118e0 11950 11c50 11d50 11da0 11f50",
   "16a60 16ac0 16b50 1d7ce 1d7d8 1d7e2 1d7ec 1d7f6 1e140 1e2f0 1e4f0 1e950 1fbf0"]).map (hexNumber ·.toList)).toArray

/-- The value of a decimal digit of any script. -/
def digitValue? (c : Char) : Option Nat :=
  let n := c.toNat
  if n < 128 then (if 48 ≤ n && n ≤ 57 then some (n - 48) else none)
  else match digitZeros.find? (fun z => z ≤ n && n < z + 10) with
    | some z => some (n - z)
    | none => none

/-- An ASCII decimal digit. -/
def isDigit (c : Char) : Bool := 48 ≤ c.toNat && c.toNat ≤ 57

/-- A byte that is an ASCII decimal digit. -/
def isByteDigit (b : UInt8) : Bool := 48 ≤ b && b ≤ 57

/-- The number written by decimal digits, most significant first. -/
def ofDigits (ds : List Nat) : Nat := ds.foldl (fun n d => 10 * n + d) 0

end Mailroom.Text
