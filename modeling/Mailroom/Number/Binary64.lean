/-!
  Mailroom.Number.Binary64
  ────────────────────────────────
  **BINARY64 NUMBERS, COMPUTED EXACTLY AND ROUNDED ONCE.**

  A number is a sign with m · 2^e, an infinity, or not a number.  Every
  operation computes its exact result as a quotient of naturals and rounds it
  with `ofQuotient`: to the nearest representable value, a tie to the even one.

      ofQuotient neg a b  — the value nearest to ± a / b
      ofDecimal neg d k   — the value nearest to ± d · 10^k
      add, mul, div       — the rounded exact results
-/
namespace Mailroom.Number

/-! ## §1. The numbers. -/

/-- A binary64 number; a finite one is `± significand · 2 ^ exponent`. -/
inductive Binary64 where
  | nan
  | infinite (negative : Bool)
  | finite (negative : Bool) (significand : Nat) (exponent : Int)
  deriving Repr, DecidableEq, Inhabited

namespace Binary64

/-- Zero, with a sign. -/
def zero (negative : Bool) : Binary64 := .finite negative 0 (-1074)

/-! ## §2. Rounding a quotient. -/

/-- Two to the power `k`. -/
def pow2 (k : Nat) : Nat := Nat.pow 2 k

/-- Ten to the power `k`. -/
def pow10 (k : Nat) : Nat := Nat.pow 10 k

/-- The integer nearest to `a / b`, a tie to the even one. -/
def roundDiv (a b : Nat) : Nat :=
  let q := a / b
  let r := a % b
  if 2 * r < b then q
  else if b < 2 * r then q + 1
  else if q % 2 == 0 then q else q + 1

/-- `n · 2^k` for `k ≥ 0`, otherwise `n`. -/
def scaleUp (n : Nat) (k : Int) : Nat := n * pow2 k.toNat

/-- The exponent of the last place of the values near `a / b`: the quotient
lies in `[2^52, 2^53)` times `2` to it, and it is never below `-1074`. -/
def lastPlace (a b : Nat) : Int :=
  let guess : Int := (a.log2 : Int) - (b.log2 : Int) - 52
  let e := if scaleUp a (-guess) < pow2 52 * scaleUp b guess then guess - 1 else guess
  max e (-1074)

/-- The value nearest to `± a / b`, a tie to the even significand; beyond the
largest finite value it is infinite. -/
def ofQuotient (negative : Bool) (a b : Nat) : Binary64 :=
  if a == 0 then zero negative
  else
    let e := lastPlace a b
    let m := roundDiv (scaleUp a (-e)) (scaleUp b e)
    let (m, e) := if m == pow2 53 then (pow2 52, e + 1) else (m, e)
    if 971 < e then .infinite negative else .finite negative m e

/-- The value nearest to `± digits · 10 ^ exponent`. -/
def ofDecimal (negative : Bool) (digits : Nat) (exponent : Int) : Binary64 :=
  let size : Int := (digits.log2 : Int)
  if digits == 0 then zero negative
  else if size + 3 * exponent > 1100 && exponent > 0 then .infinite negative
  else if size + 3 * exponent < -1200 then zero negative
  else ofQuotient negative (digits * pow10 exponent.toNat) (pow10 (-exponent).toNat)

/-- The value nearest to an integer. -/
def ofInt (n : Int) : Binary64 := ofQuotient (n < 0) n.natAbs 1

/-! ## §3. Arithmetic. -/

/-- The exact value of a finite number as a signed multiple of `2 ^ -1074`. -/
def units (negative : Bool) (m : Nat) (e : Int) : Int :=
  let u : Int := (m * pow2 (e + 1074).toNat : Nat)
  if negative then -u else u

/-- The sum, rounded; an exact zero is positive unless both are negative
zeros. -/
def add : Binary64 → Binary64 → Binary64
  | .nan, _ | _, .nan => .nan
  | .infinite s, .infinite t => if s == t then .infinite s else .nan
  | .infinite s, _ => .infinite s
  | _, .infinite t => .infinite t
  | .finite s m e, .finite t n f =>
    let u := units s m e + units t n f
    if u == 0 then zero (s && t && m == 0 && n == 0)
    else ofQuotient (u < 0) u.natAbs (pow2 1074)

/-- The number with the opposite sign. -/
def neg : Binary64 → Binary64
  | .nan => .nan
  | .infinite s => .infinite (!s)
  | .finite s m e => .finite (!s) m e

/-- The difference, rounded. -/
def sub (a b : Binary64) : Binary64 := add a (neg b)

/-- The product, rounded. -/
def mul : Binary64 → Binary64 → Binary64
  | .nan, _ | _, .nan => .nan
  | .infinite s, .infinite t => .infinite (s != t)
  | .infinite s, .finite t n _ => if n == 0 then .nan else .infinite (s != t)
  | .finite s m _, .infinite t => if m == 0 then .nan else .infinite (s != t)
  | .finite s m e, .finite t n f =>
    ofQuotient (s != t) (m * n * pow2 (e + f).toNat) (pow2 (-(e + f)).toNat)

/-! ## §4. Comparison and conversion. -/

/-- `a < b`; false when either is not a number. -/
def lt : Binary64 → Binary64 → Bool
  | .nan, _ | _, .nan => false
  | .infinite s, .infinite t => s && !t
  | .infinite s, _ => s
  | _, .infinite t => !t
  | .finite s m e, .finite t n f => units s m e < units t n f

/-- The integer part of a finite number. -/
def truncate? : Binary64 → Option Int
  | .finite s m e =>
    let n : Int := (m * pow2 e.toNat / pow2 (-e).toNat : Nat)
    some (if s then -n else n)
  | _ => none

/-- The least integer at or above a finite number. -/
def ceil? : Binary64 → Option Int
  | .finite s m e =>
    let a := m * pow2 e.toNat
    let b := pow2 (-e).toNat
    some (if s then -((a / b : Nat) : Int) else ((a + b - 1) / b : Nat))
  | _ => none

/-- Whether the number is a finite integer. -/
def isIntegral : Binary64 → Bool
  | .finite _ m e => m * pow2 e.toNat % pow2 (-e).toNat == 0
  | _ => false

/-- Whether the number is a zero of either sign. -/
def isZero : Binary64 → Bool
  | .finite _ m _ => m == 0
  | _ => false

end Binary64

end Mailroom.Number
