/-!
  Mailroom.Text.Lines
  ────────────────────────────────
  **LINES OF OCTETS AND OF CHARACTERS.**

  A line of octets ends with a line feed, a carriage return, or both in the order
  CR LF.  Among characters eight more end a line.
-/
namespace Mailroom.Text

/-! ## §1. Octets. -/

/-- The lines of octets, each with its line end. -/
def linesOf : List UInt8 → List (List UInt8)
  | [] => []
  | b :: bs =>
    if b == 10 then [b] :: linesOf bs
    else if b == 13 then
      match bs, linesOf bs with
      | 10 :: _, l :: ls => (b :: l) :: ls
      | _, ls => [b] :: ls
    else match bs, linesOf bs with
      | _ :: _, l :: ls => (b :: l) :: ls
      | _, ls => [b] :: ls

/-- A line without its line end. -/
def withoutLineEnd (line : List UInt8) : List UInt8 :=
  match line.reverse with
  | 10 :: 13 :: r => r.reverse
  | 10 :: r => r.reverse
  | 13 :: r => r.reverse
  | _ => line

/-- Whether a line starts with a line end. -/
def isBlankLine : List UInt8 → Bool
  | b :: _ => b == 10 || b == 13
  | [] => false

/-! ## §2. Characters. -/

/-- The characters that end a line. -/
def isLineEnd (c : Char) : Bool :=
  let n := c.toNat
  (10 ≤ n && n ≤ 13) || (0x1C ≤ n && n ≤ 0x1E) || n == 0x85 || n == 0x2028 || n == 0x2029

/-- The characters without the line end behind the last line. -/
def withoutFinalLineEnd (cs : List Char) : List Char :=
  match cs.reverse with
  | '\n' :: '\r' :: r => r.reverse
  | c :: r => if isLineEnd c then r.reverse else cs
  | [] => []

/-- Whether a text has more than one line. -/
def hasSeveralLines (s : String) : Bool := (withoutFinalLineEnd s.toList).any isLineEnd

/-- The characters with every line end of octets written as a line feed. -/
def withLineFeeds : List Char → List Char
  | '\r' :: '\n' :: r => '\n' :: withLineFeeds r
  | '\r' :: r => '\n' :: withLineFeeds r
  | c :: r => c :: withLineFeeds r
  | [] => []

end Mailroom.Text
