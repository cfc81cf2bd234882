/-!
  Mailroom.Text.Base64
  ────────────────────────────────
  **BASE64.**

  `encode` writes groups of three octets as four characters.  `decode` is
  lenient: characters outside the alphabet are passed over, missing padding is
  supplied, and a text of one character too many is handed back as it is.
-/
namespace Mailroom.Text.Base64

/-! ## §1. The alphabet. -/

/-- The character of a six-bit value. -/
def digit (n : Nat) : UInt8 :=
  UInt8.ofNat <|
    if n < 26 then 65 + n else if n < 52 then 71 + n else if n < 62 then n - 4
    else if n == 62 then 43 else 47

/-- The six-bit value of a character. -/
def value? (b : UInt8) : Option Nat :=
  let n := b.toNat
  if 65 ≤ n && n ≤ 90 then some (n - 65)
  else if 97 ≤ n && n ≤ 122 then some (n - 71)
  else if 48 ≤ n && n ≤ 57 then some (n + 4)
  else if n == 43 then some 62
  else if n == 47 then some 63
  else none

/-! ## §2. Encoding. -/

/-- Octets as base64 text. -/
def encode : List UInt8 → List UInt8
  | a :: b :: c :: rest =>
    let n := (a.toNat * 256 + b.toNat) * 256 + c.toNat
    digit (n / 262144) :: digit (n / 4096 % 64) :: digit (n / 64 % 64) :: digit (n % 64)
      :: encode rest
  | [a, b] =>
    let n := (a.toNat * 256 + b.toNat) * 4
    [digit (n / 4096), digit (n / 64 % 64), digit (n % 64), 61]
  | [a] =>
    let n := a.toNat * 16
    [digit (n / 64), digit (n % 64), 61, 61]
  | [] => []

/-! ## §3. Decoding. -/

/-- Decodes from inside a group: `position` characters of it have been read,
`left` holds their bits that are not yet written, and `pads` padding characters
have come since.  Nothing if the text ends inside a group. -/
def decodeFrom (position left pads : Nat) : List UInt8 → Option (List UInt8)
  | [] => if position == 0 then some [] else none
  | b :: bs =>
    if b == 61 then
      if 2 ≤ position then
        if 4 ≤ position + pads + 1 then some []
        else decodeFrom position left (pads + 1) bs
      else decodeFrom position left pads bs
    else match value? b with
      | none => decodeFrom position left pads bs
      | some v =>
        match position with
        | 0 => decodeFrom 1 v 0 bs
        | 1 => (decodeFrom 2 (v % 16) 0 bs).map (UInt8.ofNat (left * 4 + v / 16) :: ·)
        | 2 => (decodeFrom 3 (v % 4) 0 bs).map (UInt8.ofNat (left * 16 + v / 4) :: ·)
        | _ => (decodeFrom 0 0 0 bs).map (UInt8.ofNat (left * 64 + v) :: ·)

/-- The octets of a base64 text; a text that cannot be completed is handed back
as it is. -/
def decode (bs : List UInt8) : List UInt8 :=
  match decodeFrom 0 0 0 bs with
  | some r => r
  | none => (decodeFrom 0 0 0 (bs ++ [61, 61])).getD bs

end Mailroom.Text.Base64
