/-!
  Mailroom.Text.Blank
  ────────────────────────────────
  **WHITE SPACE, AND WHAT IS TRIMMED FROM THE ENDS OF A TEXT.**

  Three classes are kept apart because the rules that use them differ:

      isBlank     — Unicode white space: separates words inside a text
      isTrimmed   — white space and the four information separators
                    U+001C … U+001F: removed from the ends of a text
      isByteBlank — the six ASCII blanks: separates words of bytes

  `trim` removes the longest runs of trimmed characters from both ends.
-/
namespace Mailroom.Text

/-! ## §1. The classes. -/

/-- Unicode white space: the characters that separate words. -/
def isBlank (c : Char) : Bool :=
  let n := c.toNat
  (9 ≤ n && n ≤ 13) || n == 0x20 || n == 0x85 || n == 0xA0 || n == 0x1680
    || (0x2000 ≤ n && n ≤ 0x200A) || n == 0x2028 || n == 0x2029 || n == 0x202F
    || n == 0x205F || n == 0x3000

/-- One of the information separators U+001C … U+001F. -/
def isSeparator (c : Char) : Bool :=
  0x1C ≤ c.toNat && c.toNat ≤ 0x1F

/-- The characters removed from the ends of a text. -/
def isTrimmed (c : Char) : Bool :=
  isBlank c || isSeparator c

/-- The ASCII blanks, as byte values. -/
def isByteBlank (b : UInt8) : Bool :=
  (9 ≤ b && b ≤ 13) || b == 32

/-! ## §2. Trimming lists. -/

/-- `xs` without the longest suffix of elements that satisfy `p`. -/
def dropEndWhile {α : Type} (p : α → Bool) (xs : List α) : List α :=
  (xs.reverse.dropWhile p).reverse

/-- `xs` without the longest prefix and the longest suffix of elements that
satisfy `p`. -/
def trimWhile {α : Type} (p : α → Bool) (xs : List α) : List α :=
  dropEndWhile p (xs.dropWhile p)

/-! ## §3. Trimming texts. -/

/-- `s` without white space and information separators at its ends. -/
def trim (s : String) : String :=
  String.ofList (trimWhile isTrimmed s.toList)

/-- `s` without white space and information separators at its end. -/
def trimEnd (s : String) : String :=
  String.ofList (dropEndWhile isTrimmed s.toList)

/-- Bytes without ASCII blanks at their ends. -/
def trimBytes (bs : List UInt8) : List UInt8 :=
  trimWhile isByteBlank bs

/-- The maximal runs of elements that do not satisfy `p`, none of them empty. -/
def splitRuns {α : Type} (p : α → Bool) : List α → List (List α)
  | [] => []
  | x :: xs =>
    if p x then splitRuns p xs
    else match xs, splitRuns p xs with
      | y :: _, run :: runs => if p y then [x] :: run :: runs else (x :: run) :: runs
      | _, runs => [x] :: runs

/-- The words of a byte text: its maximal runs without ASCII blanks. -/
def byteWords (bs : List UInt8) : List (List UInt8) :=
  splitRuns isByteBlank bs

/-- The parts of `xs` between the elements that satisfy `p`; parts may be empty
and there is always at least one. -/
def splitOn {α : Type} (p : α → Bool) : List α → List (List α)
  | [] => [[]]
  | x :: xs =>
    if p x then [] :: splitOn p xs
    else match splitOn p xs with
      | part :: parts => (x :: part) :: parts
      | [] => [[x]]

/-- The rest of `xs` after the prefix `pre`, if it starts with it. -/
def dropPrefix? {α : Type} [BEq α] : List α → List α → Option (List α)
  | [], xs => some xs
  | _ :: _, [] => none
  | p :: ps, x :: xs => if p == x then dropPrefix? ps xs else none

/-- Whether `needle` occurs in `hay` as a contiguous run. -/
def occursIn {α : Type} [BEq α] (needle : List α) : List α → Bool
  | [] => needle.isEmpty
  | x :: xs => needle.isPrefixOf (x :: xs) || occursIn needle xs

/-- `needle` occurs in `hay` as a substring. -/
def contains (hay needle : String) : Bool :=
  occursIn needle.toList hay.toList

end Mailroom.Text
