import Mailroom.Text.Ranges
/-!
  Mailroom.Text.QuotedPrintable
  ────────────────────────────────
  **QUOTED-PRINTABLE.**

  An equals sign and two hexadecimal digits are one octet, an equals sign before
  a line end joins two lines, and two equals signs are one.  Any other equals
  sign stands for itself, except at the end of the text, where it is dropped.
-/
namespace Mailroom.Text.QuotedPrintable

/-- The value of a hexadecimal digit in either letter case. -/
def hexValue? (b : UInt8) : Option Nat := hexDigit? (Char.ofNat b.toNat)

/-- The octet written by two hexadecimal digits. -/
def pair? (a b : UInt8) : Option UInt8 :=
  match hexValue? a, hexValue? b with
  | some a, some b => some (UInt8.ofNat (16 * a + b))
  | _, _ => none

/-- The number of octets up to and including the next line feed, at most all. -/
def throughLineFeed (bs : List UInt8) : Nat := (bs.takeWhile (· ≠ 10)).length + 1

/-- The octets of a text, of which the first `skip` have been read. -/
def decodeFrom : Nat → List UInt8 → List UInt8
  | _, [] => []
  | skip + 1, _ :: bs => decodeFrom skip bs
  | 0, b :: bs =>
    if b == 61 then
      match bs with
      | [] => []
      | c :: cs =>
        if c == 10 then decodeFrom 1 bs
        else if c == 13 then decodeFrom (throughLineFeed bs) bs
        else if c == 61 then 61 :: decodeFrom 1 bs
        else match cs with
          | d :: _ =>
            match pair? c d with
            | some o => o :: decodeFrom 2 bs
            | none => 61 :: decodeFrom 0 bs
          | [] => 61 :: decodeFrom 0 bs
    else b :: decodeFrom 0 bs

/-- The octets of a quoted-printable text. -/
def decode (bs : List UInt8) : List UInt8 := decodeFrom 0 bs

/-- The octets of the text of an encoded word, where an underscore is a blank
and an equals sign without two digits stands for itself; the first `skip`
octets have been read. -/
def wordFrom : Nat → List UInt8 → List UInt8
  | _, [] => []
  | skip + 1, _ :: bs => wordFrom skip bs
  | 0, b :: bs =>
    if b == 95 then 32 :: wordFrom 0 bs
    else if b == 61 then
      match bs with
      | c :: d :: _ =>
        match pair? c d with
        | some o => o :: wordFrom 2 bs
        | none => 61 :: wordFrom 0 bs
      | _ => 61 :: wordFrom 0 bs
    else b :: wordFrom 0 bs

/-- The octets of the text of an encoded word. -/
def decodeWord (bs : List UInt8) : List UInt8 := wordFrom 0 bs

end Mailroom.Text.QuotedPrintable
