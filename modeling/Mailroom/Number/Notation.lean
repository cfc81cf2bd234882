import Mailroom.Number.Binary64
/-!
  Mailroom.Number.Notation
  ────────────────────────────────
  **HOW BINARY64 NUMBERS ARE WRITTEN.**

      fixed6    — six places, from the exact value, a tie to the even digit
      shortest  — the fewest digits that read back to the number; positional
                  from 10^-4 up to 10^16, otherwise with a signed exponent of
                  at least two digits; integers keep a final `.0`
-/
namespace Mailroom.Number

namespace Binary64

/-! ## §1. Fixed places. -/

/-- `n` in decimal with zeros in front up to `width` digits. -/
def padded (width n : Nat) : String :=
  let s := toString n
  String.ofList (List.replicate (width - s.length) '0') ++ s

/-- Six places. -/
def fixed6 : Binary64 → String
  | .nan => "nan"
  | .infinite s => if s then "-inf" else "inf"
  | .finite s m e =>
    let n := roundDiv (m * pow2 e.toNat * pow10 6) (pow2 (-e).toNat)
    (if s then "-" else "") ++ toString (n / pow10 6) ++ "." ++ padded 6 (n % pow10 6)

/-! ## §2. The fewest digits. -/

/-- Whether `d · 10^k` rounds to the positive number `m · 2^e`. -/
def readsBack (m : Nat) (e : Int) (d : Nat) (k : Int) : Bool :=
  ofDecimal false d k == .finite false m e

/-- The scale of `m · 2^e`: the least `k`, found upwards from a lower bound
within `fuel` steps, with `m · 2^e < 10^k`. -/
def scaleFrom (m : Nat) (e : Int) : Nat → Int → Int
  | 0, k => k
  | fuel + 1, k =>
    if m * pow2 e.toNat * pow10 (-k).toNat < pow10 k.toNat * pow2 (-e).toNat then k
    else scaleFrom m e fuel (k + 1)

/-- The digits and the exponent of the shortest decimal that reads back to
`m · 2^e`, tried with `n, n + 1, …` digits; of two candidates the nearer. -/
def shortestFrom (m : Nat) (e scale : Int) : Nat → Nat → Nat × Int
  | 0, _ => (0, 0)
  | fuel + 1, n =>
    let k := scale - n
    let num := m * pow2 e.toNat * pow10 (-k).toNat
    let den := pow2 (-e).toNat * pow10 k.toNat
    let low := num / den
    let lowOk := low != 0 && readsBack m e low k
    let highOk := readsBack m e (low + 1) k
    if lowOk && (!highOk || roundDiv num den == low) then (low, k)
    else if highOk then (low + 1, k)
    else shortestFrom m e scale fuel (n + 1)

/-- Drops final zeros of the digits into the exponent. -/
def stripZeros : Nat → Nat → Int → Nat × Int
  | 0, d, k => (d, k)
  | fuel + 1, d, k => if d % 10 == 0 && d != 0 then stripZeros fuel (d / 10) (k + 1) else (d, k)

/-- The digits and exponent of the shortest decimal for a positive number. -/
def shortestDigits (m : Nat) (e : Int) : Nat × Int :=
  let start : Int := ((m.log2 : Int) + e) * 30103 / 100000 - 1
  let scale := scaleFrom m e 8 start
  let (d, k) := shortestFrom m e scale 18 1
  stripZeros 20 d k

/-- The shortest text that reads back to the number. -/
def shortest : Binary64 → String
  | .nan => "nan"
  | .infinite s => if s then "-inf" else "inf"
  | .finite s m e =>
    let sign := if s then "-" else ""
    if m == 0 then sign ++ "0.0"
    else
      let (d, k) := shortestDigits m e
      let digits := toString d
      let point : Int := digits.length + k
      sign ++
        if -4 < point && point ≤ 16 then
          if point ≤ 0 then
            "0." ++ String.ofList (List.replicate (-point).toNat '0') ++ digits
          else if point ≥ digits.length then
            digits ++ String.ofList (List.replicate (point - digits.length).toNat '0') ++ ".0"
          else
            let cs := digits.toList
            String.ofList (cs.take point.toNat) ++ "." ++ String.ofList (cs.drop point.toNat)
        else
          let cs := digits.toList
          let head := String.ofList (cs.take 1)
          let tail := String.ofList (cs.drop 1)
          let x := point - 1
          head ++ (if tail == "" then "" else "." ++ tail) ++ "e"
            ++ (if x < 0 then "-" else "+") ++ padded 2 x.natAbs

end Binary64

end Mailroom.Number
