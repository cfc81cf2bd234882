import Mathlib.Algebra.Order.Field.Power
import Mathlib.Data.Rat.Cast.Order
import Mathlib.Tactic.FieldSimp
import Mathlib.Tactic.NormNum
import Mathlib.Tactic.Positivity
import Mailroom.Number.Reading
import Mailroom.Proofs.Number.Quotient
/-!
  Mailroom.Proofs.Number.Nearest
  ────────────────────────────────
  **EVERY RESULT IS THE NUMBER NEAREST TO THE EXACT ONE.**

  A finite number has a rational value.  A rounded result is within half of its last place
  of the exact one, and it does not pass any number: what is at or above the exact result
  stays so, and what is at or below it as well.  It is infinite only if the exact result is
  beyond all finite numbers.

      Is                   — the value of a finite number
      Nearest              — what rounding makes of an exact value
      nearest_ofQuotient   — a quotient is rounded so
      nearest_mul, nearest_add, nearest_sub — and so are products, sums and differences
-/
namespace Mailroom.Number.Binary64

/-! ## §1. Values. -/

/-- The value of the place `e`. -/
def place (e : Int) : ℚ := 2 ^ e

/-- A value with a sign. -/
def signed (negative : Bool) (q : ℚ) : ℚ := if negative then -q else q

/-- **The value of a number**: it is finite, with at most 53 places, none of which is behind
the last place of all. -/
def Is (x : Binary64) (v : ℚ) : Prop :=
  ∃ s m e, x = .finite s m e ∧ m < 2 ^ 53 ∧ -1074 ≤ e ∧ e ≤ 971 ∧ v = signed s (m * place e)

/-- Half of the last place of all. -/
def tiny : ℚ := place (-1075)

section

variable {x y : Binary64} {u v w q : ℚ} {s t : Bool} {m n : Nat} {e f : Int}

theorem place_pos (e : Int) : 0 < place e := zpow_pos (by norm_num) e

theorem place_add (e f : Int) : place (e + f) = place e * place f := zpow_add₀ (by norm_num) e f

theorem place_mono (h : e ≤ f) : place e ≤ place f := zpow_le_zpow_right₀ (by norm_num) h

theorem place_natCast (k : Nat) : place k = 2 ^ k := zpow_natCast 2 k

theorem place_pow2 (k : Nat) : place k = pow2 k := by
  rw [place_natCast, ← Nat.cast_ofNat, ← Nat.cast_pow]
  rfl

/-- From one place to a higher one it is a whole number of times. -/
theorem place_eq_mul (h : e ≤ f) : place f = (2 ^ (f - e).toNat : Nat) * place e := by
  obtain ⟨k, rfl⟩ := Int.le.dest h
  have hk : (e + k - e).toNat = k := by omega
  rw [hk, Int.add_comm, place_add, place_natCast]
  push_cast
  rfl

theorem place_toNat (e : Int) : (pow2 e.toNat : ℚ) = place e * pow2 (-e).toNat := by
  rw [← place_pow2, ← place_pow2, ← place_add]
  congr 1
  omega

theorem tiny_pos : 0 < tiny := place_pos _

theorem place_least : place (-1074) = tiny * 2 := by
  rw [show (-1074 : Int) = -1075 + 1 by norm_num, place_add]
  simp [place, tiny]

theorem signed_not (s : Bool) (q : ℚ) : signed (!s) q = -signed s q := by
  cases s <;> simp [signed]

theorem abs_signed (s : Bool) (q : ℚ) : |signed s q| = |q| := by
  cases s <;> simp [signed]

theorem signed_mul (s t : Bool) (p q : ℚ) : signed (s != t) (p * q) = signed s p * signed t q := by
  cases s <;> cases t <;> simp [signed]

theorem signed_div (s : Bool) (p q : ℚ) : signed s (p / q) = signed s p / q := by
  cases s <;> simp [signed, neg_div]

/-- An integer is its magnitude with its sign. -/
theorem signed_natAbs (n : Int) : signed (decide (n < 0)) n.natAbs = n := by
  rw [Nat.cast_natAbs]
  rcases lt_or_ge n 0 with hneg | hnonneg
  · rw [decide_eq_true hneg, abs_of_neg hneg]
    simp [signed]
  · rw [decide_eq_false (not_lt.2 hnonneg), abs_of_nonneg hnonneg]
    rfl

theorem Is.unique (hv : x.Is v) (hw : x.Is w) : v = w := by
  obtain ⟨s, m, e, rfl, -, -, -, rfl⟩ := hv
  obtain ⟨s', m', e', heq, -, -, -, rfl⟩ := hw
  cases heq
  rfl

theorem Is.neg (h : x.Is v) : x.neg.Is (-v) := by
  obtain ⟨s, m, e, rfl, hm, hlow, hhigh, rfl⟩ := h
  exact ⟨!s, m, e, rfl, hm, hlow, hhigh, (signed_not s _).symm⟩

theorem is_zero (s : Bool) : (zero s).Is 0 :=
  ⟨s, 0, -1074, rfl, by norm_num, by norm_num, by norm_num, by cases s <;> simp [signed]⟩

/-- The least number above zero. -/
theorem is_least : (Binary64.finite false 1 (-1074)).Is (place (-1074)) :=
  ⟨false, 1, -1074, rfl, by norm_num, by norm_num, by norm_num, by simp [signed]⟩

/-- The largest number. -/
theorem is_top : (Binary64.finite false (2 ^ 53 - 1) 971).Is ((2 ^ 53 - 1) * place 971) :=
  ⟨false, 2 ^ 53 - 1, 971, rfl, by norm_num, by norm_num, by norm_num, by norm_num [signed]⟩

theorem Is.abs (h : x.Is v) : ∃ y : Binary64, y.Is |v| := by
  obtain ⟨s, m, e, rfl, hm, hlow, hhigh, rfl⟩ := h
  have hpos := place_pos e
  refine ⟨.finite false m e, false, m, e, rfl, hm, hlow, hhigh, ?_⟩
  rw [abs_signed, abs_of_nonneg (by positivity)]
  rfl

/-- All numbers are multiples of the last place of all. -/
theorem Is.multiple (h : x.Is v) : ∃ n : Int, v = n * place (-1074) := by
  obtain ⟨s, m, e, rfl, -, hlow, -, rfl⟩ := h
  refine ⟨if s then -(m * 2 ^ (e - -1074).toNat : Nat) else (m * 2 ^ (e - -1074).toNat : Nat), ?_⟩
  rw [place_eq_mul hlow]
  cases s <;> simp [signed, mul_assoc]

/-- Two numbers that differ do so by the last place of all. -/
theorem Is.gap (hv : x.Is v) (hw : y.Is w) (h : v < w) : v + place (-1074) ≤ w := by
  obtain ⟨m, rfl⟩ := hv.multiple
  obtain ⟨n, rfl⟩ := hw.multiple
  have hplace := place_pos (-1074)
  have hmn : m + 1 ≤ n := by exact_mod_cast lt_of_mul_lt_mul_right h hplace.le
  have hmn : (m : ℚ) + 1 ≤ n := by exact_mod_cast hmn
  calc m * place (-1074) + place (-1074) = (m + 1) * place (-1074) := by ring
    _ ≤ n * place (-1074) := mul_le_mul_of_nonneg_right hmn hplace.le

/-- A number that is not zero is at least as far from zero as the last place of all. -/
theorem Is.least_le (h : x.Is v) (hv : v ≠ 0) : tiny * 2 ≤ |v| := by
  obtain ⟨y, hy⟩ := h.abs
  have hgap := (is_zero false).gap hy (abs_pos.2 hv)
  rwa [zero_add, place_least] at hgap

/-- Finite numbers end before the place 1024. -/
theorem Is.lt_top (h : x.Is v) : |v| < place 1024 := by
  obtain ⟨s, m, e, rfl, hm, -, hhigh, rfl⟩ := h
  have hm : (m : ℚ) < place 53 := by
    rw [show place 53 = 2 ^ 53 from place_natCast 53]
    exact_mod_cast hm
  have hpos := place_pos e
  rw [abs_signed, abs_of_nonneg (by positivity)]
  calc (m : ℚ) * place e < place 53 * place e := by gcongr
    _ ≤ place 53 * place 971 := mul_le_mul_of_nonneg_left (place_mono hhigh) (place_pos 53).le
    _ = place 1024 := (place_add 53 971).symm

/-- A positive number is a multiple of a place, or it ends behind the place and has fewer than
53 places down to it. -/
theorem Is.at_place (h : x.Is w) (e : Int) :
    w ≤ 0 ∨ (∃ k : Nat, w = k * place e) ∨ -1074 < e ∧ w < 2 ^ 52 * place e := by
  obtain ⟨s, m, f, rfl, hm, hlow, -, rfl⟩ := h
  have hm : (m : ℚ) < 2 ^ 53 := by exact_mod_cast hm
  have hpos := place_pos f
  cases s with
  | true =>
    refine .inl ?_
    have hnonneg : 0 ≤ (m : ℚ) * place f := by positivity
    simpa [signed] using hnonneg
  | false =>
    rcases lt_or_ge f e with hlt | hle
    · refine .inr (.inr ⟨by omega, ?_⟩)
      have hdouble : place f * 2 ≤ place e := by
        calc place f * 2 = place (f + 1) := by rw [place_add]; simp [place]
          _ ≤ place e := place_mono hlt
      calc signed false (m * place f) = m * place f := rfl
        _ < 2 ^ 53 * place f := by gcongr
        _ = 2 ^ 52 * (place f * 2) := by ring
        _ ≤ 2 ^ 52 * place e := by gcongr
    · refine .inr (.inl ⟨m * 2 ^ (f - e).toNat, ?_⟩)
      rw [signed, place_eq_mul hle]
      push_cast
      simp [mul_assoc]

/-! ## §2. Rounded values. -/

/-- A value is that of the number nearest to an exact one: within half of the last place,
and no number lies between the two. -/
structure Closest (v q : ℚ) : Prop where
  near : |v - q| ≤ |q| / 2 ^ 53 + tiny
  le : ∀ {z w}, Is z w → q ≤ w → v ≤ w
  ge : ∀ {z w}, Is z w → w ≤ q → w ≤ v

/-- **What an exact value is rounded to.** -/
inductive Nearest (q : ℚ) : Binary64 → Prop
  | finite {x : Binary64} {v : ℚ} (value : x.Is v) (closest : Closest v q) : Nearest q x
  | above (h : ∀ z w, Is z w → w < q) : Nearest q (.infinite false)
  | below (h : ∀ z w, Is z w → q < w) : Nearest q (.infinite true)

theorem Closest.neg (h : Closest v q) : Closest (-v) (-q) where
  near := by
    rw [abs_neg, neg_sub_neg, abs_sub_comm]
    exact h.near
  le hz hq := by
    have hle := h.ge hz.neg (by linarith)
    linarith
  ge hz hq := by
    have hle := h.le hz.neg (by linarith)
    linarith

theorem Nearest.neg (h : Nearest q x) : Nearest (-q) x.neg := by
  cases h with
  | finite value closest => exact .finite value.neg closest.neg
  | above h =>
    refine .below fun z w hz => ?_
    have hlt := h _ _ hz.neg
    linarith
  | below h =>
    refine .above fun z w hz => ?_
    have hlt := h _ _ hz.neg
    linarith

theorem closest_zero : Closest 0 0 where
  near := by simpa using tiny_pos.le
  le _ h := h
  ge _ h := h

/-- What is no larger than some number is rounded to one that is no larger. -/
theorem Nearest.bounded (h : Nearest q x) (hw : y.Is w) (hq : |q| ≤ w) :
    ∃ v, x.Is v ∧ Closest v q ∧ |v| ≤ w := by
  obtain ⟨hlow, hhigh⟩ := abs_le.1 hq
  cases h with
  | @finite x v value closest =>
    refine ⟨v, value, closest, abs_le.2 ⟨closest.ge hw.neg hlow, closest.le hw hhigh⟩⟩
  | above h => exact absurd (h _ _ hw) (not_lt.2 hhigh)
  | below h => exact absurd (h _ _ hw.neg) (not_lt.2 hlow)

theorem Closest.nonneg (h : Closest v q) (hq : 0 ≤ q) : 0 ≤ v := h.ge (is_zero false) hq

end

/-! ## §3. Quotients. -/

section

variable {a b : Nat} {e : Int}

/-- A quotient and a place are scaled alike, so they are compared without dividing. -/
theorem exists_scale (a : Nat) (e : Int) (hb : 0 < b) : ∃ K : ℚ, 0 < K ∧
    (scaleUp a (-e) : ℚ) = a / b * K ∧ (scaleUp b e : ℚ) = place e * K := by
  have hb : (0 : ℚ) < b := by exact_mod_cast hb
  have hscale : (0 : ℚ) < pow2 (-e).toNat := by exact_mod_cast pow2_pos _
  refine ⟨b * pow2 (-e).toNat, by positivity, ?_, ?_⟩
  · unfold scaleUp
    push_cast
    field_simp
  · unfold scaleUp
    push_cast
    rw [place_toNat]
    ring

/-- How much the powers of two in it say of a quotient. -/
theorem quotient_lt_place (a : Nat) (hb : 0 < b) :
    (a : ℚ) / b < place (53 + ((a.log2 : Int) - b.log2 - 52)) := by
  have hbq : (0 : ℚ) < b := by exact_mod_cast hb
  have hlow : place b.log2 ≤ b := by
    rw [place_natCast]
    exact_mod_cast Nat.log2_self_le hb.ne'
  have hhigh : (a : ℚ) < place (a.log2 + 1 : Nat) := by
    rw [place_natCast]
    exact_mod_cast Nat.lt_log2_self
  rw [div_lt_iff₀ hbq]
  calc (a : ℚ) < place (a.log2 + 1 : Nat) := hhigh
    _ = place (53 + ((a.log2 : Int) - b.log2 - 52)) * place b.log2 := by
        rw [← place_add]
        congr 1
        push_cast
        ring
    _ ≤ place (53 + ((a.log2 : Int) - b.log2 - 52)) * b :=
        mul_le_mul_of_nonneg_left hlow (place_pos _).le

/-- The quotient has no more than 53 places down to the last one. -/
theorem lastPlace_lt (a : Nat) (hb : 0 < b) : (a : ℚ) / b < 2 ^ 53 * place (lastPlace a b) := by
  have hbits := quotient_lt_place a hb
  unfold lastPlace
  dsimp only
  generalize (a.log2 : Int) - b.log2 - 52 = guess at hbits ⊢
  split
  next hlow =>
    obtain ⟨K, hK, haK, hbK⟩ := exists_scale a guess hb
    have hlow : (a : ℚ) / b * K < 2 ^ 52 * place guess * K := by
      rw [mul_assoc, ← haK, ← hbK]
      exact_mod_cast hlow
    have hdouble : place guess = place (guess - 1) * 2 := by
      rw [← Int.sub_add_cancel guess 1, place_add, Int.add_sub_cancel]
      simp [place]
    calc (a : ℚ) / b < 2 ^ 52 * place guess := lt_of_mul_lt_mul_right hlow hK.le
      _ = 2 ^ 53 * place (guess - 1) := by rw [hdouble]; ring
      _ ≤ 2 ^ 53 * place (max (guess - 1) (-1074)) := by
          gcongr
          exact place_mono (le_max_left _ _)
  next =>
    have h53 : place 53 = 2 ^ 53 := place_natCast 53
    calc (a : ℚ) / b < place (53 + guess) := hbits
      _ = 2 ^ 53 * place guess := by rw [place_add, h53]
      _ ≤ 2 ^ 53 * place (max guess (-1074)) := by
          gcongr
          exact place_mono (le_max_left _ _)

/-- The quotient has 53 places down to the last one, unless that is the last of all. -/
theorem le_lastPlace (ha : 0 < a) (hb : 0 < b) :
    lastPlace a b = -1074 ∨ 2 ^ 52 * place (lastPlace a b) ≤ (a : ℚ) / b := by
  refine (lastPlace_fine ha).imp_right fun hfine => ?_
  obtain ⟨K, hK, haK, hbK⟩ := exists_scale a (lastPlace a b) hb
  have hscaled : (2 : ℚ) ^ 52 * place (lastPlace a b) * K ≤ a / b * K := by
    rw [mul_assoc, ← haK, ← hbK]
    exact_mod_cast hfine
  exact le_of_mul_le_mul_right hscaled hK

/-- **A value is rounded at a place** to a multiple that is within half of it, and that has the
same order to all other multiples. -/
structure RoundedAt (e : Int) (q : ℚ) (m : Nat) : Prop where
  near : |m * place e - q| ≤ place e / 2
  le : ∀ n : Nat, q ≤ n * place e → m ≤ n
  ge : ∀ n : Nat, n * place e ≤ q → n ≤ m

theorem roundedAt_roundDiv (a : Nat) (hb : 0 < b) (e : Int) :
    RoundedAt e (a / b) (roundDiv (scaleUp a (-e)) (scaleUp b e)) := by
  obtain ⟨K, hK, haK, hbK⟩ := exists_scale a e hb
  have hdivisor : 0 < scaleUp b e := Nat.mul_pos hb (pow2_pos _)
  constructor
  · have hbelow : 2 * (scaleUp a (-e) : ℚ)
        ≤ 2 * (roundDiv (scaleUp a (-e)) (scaleUp b e) * scaleUp b e) + scaleUp b e := by
      exact_mod_cast le_roundDiv hdivisor
    have habove : 2 * (roundDiv (scaleUp a (-e)) (scaleUp b e) * scaleUp b e : ℚ)
        ≤ 2 * scaleUp a (-e) + scaleUp b e := by
      exact_mod_cast roundDiv_mul_le
    generalize roundDiv (scaleUp a (-e)) (scaleUp b e) = m at hbelow habove ⊢
    rw [haK, hbK] at hbelow habove
    refine abs_le.2 ⟨?_, ?_⟩
    · refine le_of_mul_le_mul_right ?_ hK
      linarith
    · refine le_of_mul_le_mul_right ?_ hK
      linarith
  · intro n hn
    refine roundDiv_le hdivisor ?_
    have hscaled : (scaleUp a (-e) : ℚ) ≤ n * scaleUp b e := by
      rw [haK, hbK, ← mul_assoc]
      exact mul_le_mul_of_nonneg_right hn hK.le
    exact_mod_cast hscaled
  · intro n hn
    refine le_roundDiv_of_le hdivisor ?_
    have hscaled : (n : ℚ) * scaleUp b e ≤ scaleUp a (-e) := by
      rw [haK, hbK, ← mul_assoc]
      exact mul_le_mul_of_nonneg_right hn hK.le
    exact_mod_cast hscaled

/-- **What is rounded at its last place is the closest number**, by the multiples of that place:
a number that is none of them ends behind it, and is below 53 places. -/
theorem RoundedAt.closest {q : ℚ} {m : Nat} (h : RoundedAt e q m) (hq : 0 < q)
    (hplaces : e = -1074 ∨ 2 ^ 52 * place e ≤ q) : Closest (m * place e) q := by
  have hplace := place_pos e
  constructor
  · -- Half of the last place is a small part of the value, or it is the least half.
    refine h.near.trans ?_
    rw [abs_of_pos hq]
    rcases hplaces with rfl | hplaces
    · have hnonneg : 0 ≤ q / 2 ^ 53 := by positivity
      linarith [place_least]
    · have htiny := tiny_pos
      linarith
  · intro z w hz hw
    rcases hz.at_place e with hneg | ⟨k, rfl⟩ | ⟨hlast, hshort⟩
    · linarith
    · exact mul_le_mul_of_nonneg_right (by exact_mod_cast h.le k hw) hplace.le
    · have hlong := hplaces.resolve_left (by omega)
      linarith
  · intro z w hz hw
    rcases hz.at_place e with hneg | ⟨k, rfl⟩ | ⟨hlast, hshort⟩
    · have hnonneg : 0 ≤ (m : ℚ) * place e := by positivity
      exact hneg.trans hnonneg
    · exact mul_le_mul_of_nonneg_right (by exact_mod_cast h.ge k hw) hplace.le
    · have hlong : 2 ^ 52 ≤ m := by
        refine h.ge _ ?_
        push_cast
        exact hplaces.resolve_left (by omega)
      have hlong : (2 : ℚ) ^ 52 ≤ m := by exact_mod_cast hlong
      calc w ≤ 2 ^ 52 * place e := hshort.le
        _ ≤ m * place e := by gcongr

/-- A quotient is rounded to the number nearest to it. -/
theorem nearest_div (ha : 0 < a) (hb : 0 < b) : Nearest (a / b) (ofQuotient false a b) := by
  have hq : (0 : ℚ) < a / b := div_pos (by exact_mod_cast ha) (by exact_mod_cast hb)
  have hrounded := roundedAt_roundDiv a hb (lastPlace a b)
  have hlow : -1074 ≤ lastPlace a b := le_max_right _ _
  have hplaces := le_lastPlace ha hb
  have hlt := lastPlace_lt a hb
  unfold ofQuotient
  rw [if_neg (by simpa using ha.ne')]
  dsimp only
  generalize roundDiv (scaleUp a (-lastPlace a b)) (scaleUp b (lastPlace a b)) = m at hrounded ⊢
  generalize lastPlace a b = e at hrounded hlow hplaces hlt ⊢
  have hclosest := hrounded.closest hq hplaces
  have hle : m ≤ 2 ^ 53 := hrounded.le _ (by push_cast; exact hlt.le)
  have hge : 971 < e → 2 ^ 52 ≤ m := fun he =>
    hrounded.ge _ (by push_cast; exact hplaces.resolve_left (by omega))
  -- The carry keeps the value.
  obtain ⟨m', e', hcarry, hm', hlow', hlarge, hvalue⟩ : ∃ m' e',
      (if (m == pow2 53) = true then (pow2 52, e + 1) else (m, e)) = (m', e') ∧ m' < 2 ^ 53 ∧
        -1074 ≤ e' ∧ (971 < e' → 2 ^ 52 ≤ m') ∧ (m : ℚ) * place e = m' * place e' := by
    split
    next hfull =>
      refine ⟨_, _, rfl, by decide, by omega, fun _ => by decide, ?_⟩
      rw [eq_of_beq hfull, place_add]
      simp [pow2, place]
      ring
    next hpart =>
      have hne : m ≠ 2 ^ 53 := by simpa [pow2] using hpart
      exact ⟨m, e, rfl, by omega, hlow, hge, rfl⟩
  rw [hcarry]
  dsimp only
  split
  next hover =>
    refine .above fun z w hz => ?_
    by_contra hge
    have htop := (abs_lt.1 hz.lt_top).2
    have hreach := hclosest.le hz (not_lt.1 hge)
    have hlarge : (2 : ℚ) ^ 52 ≤ m' := by exact_mod_cast hlarge hover
    have hhigh : place 1024 ≤ m' * place e' := by
      have h52 : place 52 = 2 ^ 52 := place_natCast 52
      calc place 1024 = place 52 * place 972 := place_add 52 972
        _ = 2 ^ 52 * place 972 := by rw [h52]
        _ ≤ m' * place e' :=
            mul_le_mul hlarge (place_mono (by omega)) (place_pos 972).le (Nat.cast_nonneg m')
    linarith
  next hfit =>
    refine .finite ⟨false, m', e', rfl, hm', hlow', by omega, rfl⟩ ?_
    rw [signed, if_neg (by decide), ← hvalue]
    exact hclosest

/-- **A quotient is rounded to the number nearest to it**, on either side of zero. -/
theorem nearest_ofQuotient (s : Bool) (a : Nat) (hb : 0 < b) :
    Nearest (signed s (a / b)) (ofQuotient s a b) := by
  have hpositive : Nearest ((a : ℚ) / b) (ofQuotient false a b) := by
    rcases Nat.eq_zero_or_pos a with rfl | ha
    · simpa [ofQuotient] using Nearest.finite (is_zero false) closest_zero
    · exact nearest_div ha hb
  cases s with
  | false => exact hpositive
  | true =>
    have hneg : ofQuotient true a b = (ofQuotient false a b).neg := by
      unfold ofQuotient
      dsimp only
      split
      · rfl
      · split <;> split <;> rfl
    rw [hneg]
    exact hpositive.neg

end

/-! ## §4. Arithmetic. -/

section

variable {x y : Binary64} {u v : ℚ}

/-- **A product is rounded to the number nearest to it.** -/
theorem nearest_mul (hx : x.Is u) (hy : y.Is v) : Nearest (u * v) (x.mul y) := by
  obtain ⟨s, m, e, rfl, -, -, -, rfl⟩ := hx
  obtain ⟨t, n, f, rfl, -, -, -, rfl⟩ := hy
  have hpos : (0 : ℚ) < pow2 (-(e + f)).toNat := by exact_mod_cast pow2_pos _
  have hexact : ((m * n * pow2 (e + f).toNat : Nat) : ℚ) / pow2 (-(e + f)).toNat
      = m * place e * (n * place f) := by
    push_cast
    rw [place_toNat, place_add]
    field_simp
  rw [← signed_mul, ← hexact]
  exact nearest_ofQuotient _ _ (pow2_pos _)

/-- The whole number of last places that a finite number is. -/
theorem units_eq (s : Bool) (m : Nat) {e : Int} (he : -1074 ≤ e) :
    (units s m e : ℚ) / pow2 1074 = signed s (m * place e) := by
  have hpos : (0 : ℚ) < pow2 1074 := by exact_mod_cast pow2_pos _
  have hsigned : (units s m e : ℚ) = signed s (m * pow2 (e + 1074).toNat : Nat) := by
    cases s <;> simp [units, signed]
  have hplace : (pow2 (e + 1074).toNat : ℚ) = place e * pow2 1074 := by
    rw [← place_pow2, ← place_pow2, ← place_add, Int.toNat_of_nonneg (by omega)]
    rfl
  rw [hsigned, ← signed_div, Nat.cast_mul, hplace, ← mul_assoc, mul_div_cancel_right₀ _ hpos.ne']

/-- **A sum is rounded to the number nearest to it.** -/
theorem nearest_add (hx : x.Is u) (hy : y.Is v) : Nearest (u + v) (x.add y) := by
  obtain ⟨s, m, e, rfl, -, he, -, rfl⟩ := hx
  obtain ⟨t, n, f, rfl, -, hf, -, rfl⟩ := hy
  rw [← units_eq s m he, ← units_eq t n hf, ← add_div, ← Int.cast_add]
  unfold add
  dsimp only
  generalize units s m e + units t n f = total
  split
  next hzero =>
    rw [eq_of_beq hzero, Int.cast_zero, zero_div]
    exact .finite (is_zero _) closest_zero
  next =>
    rw [← signed_natAbs total, ← signed_div]
    exact nearest_ofQuotient _ _ (pow2_pos _)

theorem nearest_sub (hx : x.Is u) (hy : y.Is v) : Nearest (u - v) (x.sub y) := by
  rw [sub_eq_add_neg]
  exact nearest_add hx hy.neg

/-! ## §5. Numbers that are read. -/

/-- A rounded value is finite, or infinite. -/
theorem Nearest.finite_or_infinite {q : ℚ} (h : Nearest q x) :
    (∃ s, x = .infinite s) ∨ ∃ v, x.Is v := by
  cases h with
  | finite value _ => exact .inr ⟨_, value⟩
  | above _ | below _ => exact .inl ⟨_, rfl⟩

/-- What is read from a text is no number, infinite, or finite. -/
theorem cases_of_readDecimal? {cs : List Char} (h : readDecimal? cs = some x) :
    x = .nan ∨ (∃ s, x = .infinite s) ∨ ∃ v, x.Is v := by
  have hnamed : ∀ s cs, namedNumber? s cs = some x → x = .nan ∨ ∃ s, x = .infinite s := by
    intro s cs h
    unfold namedNumber? at h
    grind
  have hdecimal : ∀ s d k, some (ofDecimal s d k) = some x →
      (∃ s, x = .infinite s) ∨ ∃ v, x.Is v := by
    intro s d k hx
    obtain rfl := Option.some.inj hx
    unfold ofDecimal
    dsimp only
    repeat' split
    · exact .inr ⟨0, is_zero s⟩
    · exact .inl ⟨s, rfl⟩
    · exact .inr ⟨0, is_zero s⟩
    · exact (nearest_ofQuotient _ _ (Nat.pow_pos (by decide))).finite_or_infinite
  unfold readDecimal? at h
  dsimp only at h
  split at h
  next hname =>
    obtain rfl := Option.some.inj h
    exact (hnamed _ _ hname).imp_right .inl
  next =>
    -- Digits are rounded, with a point among them and without one.
    repeat' split at h
    all_goals first
      | exact .inr (hdecimal _ _ _ h)
      | cases h

end

end Mailroom.Number.Binary64
