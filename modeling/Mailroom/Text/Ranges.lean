/-!
  Mailroom.Text.Ranges
  ────────────────────────────────
  **TABLES OF CODE POINT RANGES.**

  A table is written as lines of hexadecimal items separated by blanks and
  read once into an ascending array.  An item is

      lo           one code point
      lo-hi        all code points from lo to hi

  `contains` looks a code point up by bisection.
-/
namespace Mailroom.Text

/-! ## §1. Reading a table. -/

/-- The value of a lower-case hexadecimal digit. -/
def hexDigit? (c : Char) : Option Nat :=
  let n := c.toNat
  if 48 ≤ n && n ≤ 57 then some (n - 48)
  else if 97 ≤ n && n ≤ 102 then some (n - 87)
  else if 65 ≤ n && n ≤ 70 then some (n - 55)
  else none

/-- The number written by hexadecimal digits; other characters are skipped. -/
def hexNumber (cs : List Char) : Nat :=
  cs.foldl (fun n c => match hexDigit? c with | some d => 16 * n + d | none => n) 0

/-- The words of the lines of a table. -/
def tableWords (lines : List String) : List String :=
  lines.flatMap (·.splitOn " ")

/-- Ascending closed ranges of code points. -/
abbrev Ranges := Array (Nat × Nat)

namespace Ranges

/-- Reads the lines of a table. -/
def ofLines (lines : List String) : Ranges :=
  ((tableWords lines).map item).toArray
where
  item (w : String) : Nat × Nat :=
    match w.splitOn "-" with
    | [lo, hi] => (hexNumber lo.toList, hexNumber hi.toList)
    | _ => (hexNumber w.toList, hexNumber w.toList)

/-! ## §2. Lookup. -/

/-- Bisection among the `size` ranges that start at index `lo`. -/
def search (r : Ranges) (n : Nat) (lo size : Nat) : Bool :=
  if _h : size = 0 then false
  else
    let half := size / 2
    match r[lo + half]? with
    | none => false
    | some (a, b) =>
      if n < a then search r n lo half
      else if b < n then search r n (lo + half + 1) (size - half - 1)
      else true
termination_by size
decreasing_by all_goals omega

/-- Whether the code point `n` lies in one of the ranges. -/
def contains (r : Ranges) (n : Nat) : Bool :=
  search r n 0 r.size

end Ranges

end Mailroom.Text
