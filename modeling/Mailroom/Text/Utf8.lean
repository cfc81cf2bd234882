/-!
  Mailroom.Text.Utf8
  ────────────────────────────────
  **UTF-8 AND ASCII, WITH U+FFFD FOR WHAT CANNOT BE READ.**

  A sequence is the longest run of octets that can start a character; a
  sequence that does not complete a character is read as one U+FFFD, and reading
  goes on behind it.

      encode       — the octets of a text
      decode       — the text of any octets
      decodeAscii  — one character for each octet
-/
namespace Mailroom.Text

/-- The character that stands for what cannot be read. -/
def replacement : Char := Char.ofNat 0xFFFD

/-! ## §1. Encoding. -/

/-- The octets of a text. -/
def encodeChars (cs : List Char) : List UInt8 := cs.flatMap String.utf8EncodeChar

/-- The octets of a text. -/
def encode (s : String) : List UInt8 := encodeChars s.toList

/-! ## §2. Classes of octets. -/

/-- An octet that continues a character. -/
def isContinuation (b : UInt8) : Bool := 0x80 ≤ b && b < 0xC0

/-- Whether `b` may follow the lead octet `lead` of a character of three or four
octets: no overlong form, no surrogate, nothing beyond U+10FFFF. -/
def mayFollow (lead b : UInt8) : Bool :=
  isContinuation b
    && !(lead == 0xE0 && b < 0xA0) && !(lead == 0xED && 0xA0 ≤ b)
    && !(lead == 0xF0 && b < 0x90) && !(lead == 0xF4 && 0x90 ≤ b)

/-- The six low bits of an octet. -/
def low6 (b : UInt8) : Nat := b.toNat % 64

/-! ## §3. Decoding. -/

/-- The sequence that starts with the octet `a` before `r`: how many octets of
`r` belong to it, and its character if it completes one. -/
def sequenceAt (a : UInt8) (r : List UInt8) : Nat × Option Char :=
  if a < 0x80 then (0, some (Char.ofNat a.toNat))
  else if 0xC2 ≤ a && a < 0xE0 then
    match r with
    | b :: _ =>
      if isContinuation b then (1, some (Char.ofNat (a.toNat % 32 * 64 + low6 b)))
      else (0, none)
    | [] => (0, none)
  else if 0xE0 ≤ a && a < 0xF0 then
    match r with
    | b :: c :: _ =>
      if !mayFollow a b then (0, none)
      else if !isContinuation c then (1, none)
      else (2, some (Char.ofNat ((a.toNat % 16 * 64 + low6 b) * 64 + low6 c)))
    | [b] => (if mayFollow a b then 1 else 0, none)
    | [] => (0, none)
  else if 0xF0 ≤ a && a < 0xF5 then
    match r with
    | b :: c :: d :: _ =>
      if !mayFollow a b then (0, none)
      else if !isContinuation c then (1, none)
      else if !isContinuation d then (2, none)
      else (3, some (Char.ofNat (((a.toNat % 8 * 64 + low6 b) * 64 + low6 c) * 64 + low6 d)))
    | [b, c] => (if !mayFollow a b then 0 else if isContinuation c then 2 else 1, none)
    | [b] => (if mayFollow a b then 1 else 0, none)
    | [] => (0, none)
  else (0, none)

/-- The characters of octets, of which the first `skip` belong to a sequence
already read; `bad` stands for a sequence that completes no character. -/
def decodeFrom (bad : List UInt8 → List Char) : Nat → List UInt8 → List Char
  | _, [] => []
  | skip + 1, _ :: r => decodeFrom bad skip r
  | 0, a :: r =>
    match sequenceAt a r with
    | (n, some c) => c :: decodeFrom bad n r
    | (n, none) => bad (a :: r.take n) ++ decodeFrom bad n r

/-- The characters of octets; a sequence that cannot be read is one U+FFFD. -/
def decodeChars (bs : List UInt8) : List Char := decodeFrom (fun _ => [replacement]) 0 bs

/-- The text of octets; a sequence that cannot be read is one U+FFFD. -/
def decode (bs : List UInt8) : String := String.ofList (decodeChars bs)

/-- Whether octets are UTF-8 throughout. -/
def isUtf8From : Nat → List UInt8 → Bool
  | skip, [] => skip == 0
  | skip + 1, _ :: r => isUtf8From skip r
  | 0, a :: r =>
    match sequenceAt a r with
    | (n, some _) => isUtf8From n r
    | (_, none) => false

/-- Whether octets are UTF-8 throughout. -/
def isUtf8 (bs : List UInt8) : Bool := isUtf8From 0 bs

/-- The text of ASCII octets; every other octet is one U+FFFD. -/
def decodeAscii (bs : List UInt8) : String :=
  String.ofList (bs.map fun b => if b < 0x80 then Char.ofNat b.toNat else replacement)

end Mailroom.Text
