import Mailroom.Text.Lines
import Mailroom.Text.Blank
/-!
  Mailroom.Text.Uuencode
  ────────────────────────────────
  **UUENCODED TEXT.**

  Behind a line `begin`, an octal mode and a name, each line states in its first
  character how many octets follow, four characters for three of them; a line
  `end` closes the text.
-/
namespace Mailroom.Text.Uuencode

/-- The octets of `count` remaining, from characters; `left` holds `bits` bits
not yet written.  Nothing if a character is outside the alphabet. -/
def octetsFrom : Nat → Nat → Nat → Nat → List UInt8 → Option (List UInt8 × List UInt8)
  | _, 0, _, _, cs => some ([], cs)
  | 0, _ + 1, _, _, _ => none
  | fuel + 1, count + 1, left, bits, cs =>
    let step (v : Nat) (rest : List UInt8) : Option (List UInt8 × List UInt8) :=
      let left := left * 64 + v
      if bits + 6 ≥ 8 then
        let bits := bits + 6 - 8
        (octetsFrom fuel count (left % Nat.pow 2 bits) bits rest).map fun (os, r) =>
          (UInt8.ofNat (left / Nat.pow 2 bits) :: os, r)
      else octetsFrom fuel (count + 1) left (bits + 6) rest
    match cs with
    | [] => step 0 []
    | c :: rest =>
      if c == 10 || c == 13 then step 0 rest
      else if c < 32 || 96 < c then none
      else step ((c.toNat - 32) % 64) rest

/-- The octets of one line; nothing if it is malformed. -/
def line? : List UInt8 → Option (List UInt8)
  | [] => none
  | n :: cs =>
    let count := (n.toNat + 224) % 64
    match octetsFrom (2 * count + 2) count 0 0 cs with
    | some (os, rest) =>
      if rest.all fun c => c == 32 || c == 96 || c == 10 || c == 13 then some os else none
    | none => none

/-- The octets of one line, what is written beyond its count left out. -/
def lenientLine? (cs : List UInt8) : Option (List UInt8) :=
  match line? cs with
  | some os => some os
  | none =>
    match cs with
    | [] => none
    | n :: _ => line? (cs.take ((((n.toNat + 224) % 64) * 4 + 5) / 3))

/-- The octets of the lines up to `end`. -/
def bodyOf? : List (List UInt8) → Option (List UInt8)
  | [] => some []
  | l :: ls =>
    if l.isEmpty then none
    else if trimWhile isByteBlank l == [101, 110, 100] then some []
    else match lenientLine? l, bodyOf? ls with
      | some a, some b => some (a ++ b)
      | _, _ => none

/-- Whether a line is `begin` with an octal mode. -/
def isBegin (l : List UInt8) : Bool :=
  match dropPrefix? [98, 101, 103, 105, 110, 32] l with
  | some rest =>
    let mode := rest.takeWhile (· ≠ 32)
    !mode.isEmpty && mode.all fun b => 48 ≤ b && b ≤ 55
  | none => false

/-- The octets of a uuencoded text; nothing if it is malformed. -/
def decode? (bs : List UInt8) : Option (List UInt8) :=
  match ((linesOf bs).map withoutLineEnd).dropWhile (!isBegin ·) with
  | _ :: body => bodyOf? body
  | [] => none

end Mailroom.Text.Uuencode
