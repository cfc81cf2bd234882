import Mathlib.Tactic.Ring
import Mathlib.Tactic.Linarith
import Mailroom.Mail.Page
/-!
  Mailroom.Proofs.Number.Quotient
  ────────────────────────────────
  **A ROUNDED QUOTIENT LIES ON THE SAME SIDE OF EVERY WHOLE NUMBER.**

  A quotient of a number up to `2 ^ 53` is rounded to a multiple of a power of two that
  divides one, so a whole number at or above the quotient stays there.  One below it is
  below by at least a part in the divisor, which is more than half of the last place.
  So rounding up gives the same page count as if the quotient had been exact.

      roundDiv_le, le_roundDiv         — how far a rounded quotient is from the exact one
      lastPlace_nonpos, lastPlace_fine — the last place of a quotient
      exists_ceil?                     — which whole numbers are above a rounded quotient
      pageCount?_eq                    — the number of pages is exact
-/
namespace Mailroom.Number.Binary64

/-! ## §1. The nearest whole number. -/

/-- Rounding does not pass a whole number. -/
theorem roundDiv_le {x b n : Nat} (hb : 0 < b) (h : x ≤ n * b) : roundDiv x b ≤ n := by
  have hdiv := Nat.div_add_mod x b
  have hmod := Nat.mod_lt x hb
  have hq : x / b ≤ n := Nat.div_le_of_le_mul (by rwa [Nat.mul_comm] at h)
  rcases Nat.lt_or_ge (x / b) n with hlt | hge
  · unfold roundDiv
    dsimp only
    split
    · exact hq
    · split
      · exact hlt
      · split
        · exact hq
        · exact hlt
  · -- The quotient is exact.
    have heq : x / b = n := Nat.le_antisymm hq hge
    have hrest : x % b = 0 := by
      rw [heq, Nat.mul_comm] at hdiv
      omega
    unfold roundDiv
    dsimp only
    rw [hrest, if_pos (by omega), heq]

/-- A rounded quotient is at most half below the exact one. -/
theorem le_roundDiv {x b : Nat} (hb : 0 < b) : 2 * x ≤ 2 * (roundDiv x b * b) + b := by
  have hdiv := Nat.div_add_mod' x b
  have hmod := Nat.mod_lt x hb
  unfold roundDiv
  dsimp only
  split
  · omega
  · split
    · rw [Nat.add_mul]
      omega
    · split
      · omega
      · rw [Nat.add_mul]
        omega

/-- A rounded quotient is at most half above the exact one. -/
theorem roundDiv_mul_le {x b : Nat} : 2 * (roundDiv x b * b) ≤ 2 * x + b := by
  have hdiv := Nat.div_add_mod' x b
  unfold roundDiv
  dsimp only
  split
  · omega
  · split
    · rw [Nat.add_mul]
      omega
    · split
      · omega
      · rw [Nat.add_mul]
        omega

/-- A whole number up to a quotient is up to the rounded one. -/
theorem le_roundDiv_of_le {x b n : Nat} (hb : 0 < b) (h : n * b ≤ x) : n ≤ roundDiv x b := by
  have hq : n ≤ x / b := (Nat.le_div_iff_mul_le hb).2 h
  unfold roundDiv
  dsimp only
  repeat' split
  all_goals omega

/-! ## §2. The last place. -/

section

variable {a b : Nat}

/-- Up to `2 ^ 53` the last place is not before the point; only `2 ^ 53` itself is even. -/
theorem lastPlace_nonpos (ha : 0 < a) (hle : a ≤ 2 ^ 53) (hab : a < 2 ^ 53 ∨ 1 < b) :
    lastPlace a b ≤ 0 := by
  have hguess : a.log2 ≤ b.log2 + 52 := by
    rcases hab with hlt | hlt
    · have hlog := (Nat.log2_lt (by omega)).2 hlt
      omega
    · have hlog : a.log2 < 54 := (Nat.log2_lt (by omega)).2 (by omega)
      have hone : 1 ≤ b.log2 := (Nat.le_log2 (by omega)).2 (by omega)
      omega
  unfold lastPlace
  dsimp only
  split <;> omega

/-- The quotient has 53 places down to the last one, unless that is the last of all. -/
theorem lastPlace_fine (ha : 0 < a) : lastPlace a b = -1074 ∨
    pow2 52 * scaleUp b (lastPlace a b) ≤ scaleUp a (-lastPlace a b) := by
  unfold lastPlace
  dsimp only
  split
  next =>
    refine or_iff_not_imp_left.2 fun hne => ?_
    rw [max_eq_left (by omega)]
    unfold scaleUp
    generalize he : (a.log2 : Int) - b.log2 - 52 - 1 = e
    -- One place more than the powers of two suggest is always enough.
    calc pow2 52 * (b * pow2 e.toNat) ≤ 2 ^ 52 * (2 ^ (b.log2 + 1) * 2 ^ e.toNat) :=
          Nat.mul_le_mul_left _ (Nat.mul_le_mul_right _ Nat.lt_log2_self.le)
      _ = 2 ^ (a.log2 + (-e).toNat) := by rw [← Nat.pow_add, ← Nat.pow_add]; congr 1; omega
      _ = 2 ^ a.log2 * 2 ^ (-e).toNat := Nat.pow_add ..
      _ ≤ a * pow2 (-e).toNat := Nat.mul_le_mul_right _ (Nat.log2_self_le (by omega))
  next hhigh =>
    refine or_iff_not_imp_left.2 fun hne => ?_
    rw [max_eq_left (by omega)]
    exact Nat.not_lt.1 hhigh

/-- A last place that is not before the point leaves the divisor as it is. -/
theorem scaleUp_of_nonpos {e : Int} (he : e ≤ 0) : scaleUp b e = b := by
  unfold scaleUp
  rw [Int.toNat_of_nonpos he]
  exact Nat.mul_one b

end

/-! ## §3. Rounding up. -/

theorem ceilDiv_le_iff {x y n : Nat} (hy : 0 < y) : (x + y - 1) / y ≤ n ↔ x ≤ n * y := by
  rw [Nat.div_le_iff_le_mul_add_pred hy, Nat.mul_comm]
  omega

theorem pow2_pos (k : Nat) : 0 < pow2 k := Nat.two_pow_pos k

/-- Which whole numbers are above a finite number. -/
theorem exists_ceil?_finite (m : Nat) (e : Int) :
    ∃ c : Nat, (Binary64.finite false m e).ceil? = some (c : Int) ∧
      ∀ n : Nat, c ≤ n ↔ m * pow2 e.toNat ≤ n * pow2 (-e).toNat :=
  ⟨_, rfl, fun _ => ceilDiv_le_iff (pow2_pos _)⟩

/-- The carry into a place before the first makes a number one place shorter and keeps
its value. -/
theorem carry_le_iff (k n : Nat) :
    pow2 52 * pow2 (-(k : Int) + 1).toNat ≤ n * pow2 (-(-(k : Int) + 1)).toNat ↔
      pow2 53 ≤ n * pow2 (-(-(k : Int))).toNat := by
  cases k with
  | zero => simp [pow2]
  | succ k =>
    have hshort : (-(-((k + 1 : Nat) : Int) + 1)).toNat = k := by omega
    have hlong : (-(-((k + 1 : Nat) : Int))).toNat = k + 1 := by omega
    have hwhole : (-((k + 1 : Nat) : Int) + 1).toNat = 0 := by omega
    have hdouble : pow2 (k + 1) = pow2 k * 2 := Nat.pow_succ ..
    rw [hshort, hlong, hwhole, hdouble, ← Nat.mul_assoc]
    have h52 : pow2 52 * pow2 0 = 2 ^ 52 := rfl
    have h53 : pow2 53 = 2 ^ 53 := rfl
    omega

/-- A quotient whose last place is not before the point, as it is rounded. -/
theorem exists_ceil?_ofQuotient {a b : Nat} (ha : 0 < a) (he : lastPlace a b ≤ 0) :
    ∃ c : Nat, (ofQuotient false a b).ceil? = some (c : Int) ∧
      ∀ n : Nat, c ≤ n ↔
        roundDiv (scaleUp a (-lastPlace a b)) b ≤ n * pow2 (-lastPlace a b).toNat := by
  unfold ofQuotient
  rw [if_neg (by simpa using ha.ne')]
  dsimp only
  rw [scaleUp_of_nonpos he]
  generalize hm : roundDiv (scaleUp a (-lastPlace a b)) b = m
  obtain ⟨k, hk⟩ : ∃ k : Nat, lastPlace a b = -k := ⟨(-lastPlace a b).toNat, by omega⟩
  rw [hk]
  split
  next hfull =>
    -- The carry makes the number one place shorter, and its value stays as it is.
    obtain ⟨c, hc, hiff⟩ := exists_ceil?_finite (pow2 52) (-(k : Int) + 1)
    rw [if_neg (by omega)]
    refine ⟨c, hc, fun n => (hiff n).trans ?_⟩
    rw [eq_of_beq hfull]
    exact carry_le_iff k n
  next =>
    obtain ⟨c, hc, hiff⟩ := exists_ceil?_finite m (-(k : Int))
    rw [if_neg (by omega)]
    refine ⟨c, hc, fun n => (hiff n).trans ?_⟩
    rw [Int.toNat_of_nonpos (by omega)]
    simp [pow2]

/-- A whole number below a quotient stays below it when it is rounded. -/
theorem lt_roundDiv {a b n : Nat} (hb : 0 < b) (hle : a ≤ 2 ^ 53) (hn : 0 < n)
    (he : lastPlace a b ≤ 0) (h : n * b < a) :
    n * pow2 (-lastPlace a b).toNat < roundDiv (scaleUp a (-lastPlace a b)) b := by
  by_contra hge
  have hfine := lastPlace_fine (b := b) (Nat.zero_lt_of_lt h)
  rw [scaleUp_of_nonpos he] at hfine
  unfold scaleUp at hge hfine
  generalize hk : (-lastPlace a b).toNat = k at hge hfine
  have hpos := pow2_pos k
  obtain ⟨d, hd⟩ : ∃ d, a = n * b + (d + 1) := ⟨a - n * b - 1, by omega⟩
  have hhalf : 2 * ((d + 1) * pow2 k) ≤ b := by
    have hround := le_roundDiv (x := a * pow2 k) hb
    have hscaled := Nat.mul_le_mul_right b (Nat.not_lt.1 hge)
    have hsplit : a * pow2 k = n * pow2 k * b + (d + 1) * pow2 k := by rw [hd]; ring
    omega
  have hpart : pow2 k ≤ (d + 1) * pow2 k := Nat.le_mul_of_pos_left _ (Nat.succ_pos d)
  rcases hfine with hlast | hplaces
  · -- The last place of all is far too small for a divisor below `a`.
    have hbn : b ≤ n * b := Nat.le_mul_of_pos_left _ hn
    have hlarge : 2 ^ 53 ≤ pow2 k := Nat.pow_le_pow_right (by decide) (by omega)
    omega
  · have hscaled : a * pow2 k ≤ 2 ^ 53 * pow2 k := Nat.mul_le_mul_right _ hle
    have h52 : pow2 52 = 2 ^ 52 := rfl
    rw [h52] at hplaces
    -- So `b` is twice the scale, and `a` is `2 ^ 53`; but `a` is odd, as `n * b` is even.
    have htwice : b = 2 * pow2 k := by omega
    have hfull : 2 ^ 53 ≤ a := by
      refine Nat.le_of_mul_le_mul_right ?_ hpos
      omega
    have hd0 : d = 0 := by
      have hmul : (d + 1) * pow2 k = d * pow2 k + pow2 k := by ring
      have hzero : d * pow2 k = 0 := by omega
      exact (Nat.mul_eq_zero.1 hzero).resolve_right hpos.ne'
    have heven : n * b = 2 * (n * pow2 k) := by rw [htwice]; ring
    omega

/-- **Which whole numbers are above a rounded quotient**: those above the exact one. -/
theorem exists_ceil? {a b : Nat} (hle : a ≤ 2 ^ 53) (hb : 0 < b) :
    ∃ c : Nat, (ofQuotient false a b).ceil? = some (c : Int) ∧
      ∀ n : Nat, 0 < n → (c ≤ n ↔ a ≤ n * b) := by
  rcases Nat.eq_zero_or_pos a with rfl | ha
  · obtain ⟨c, hc, hiff⟩ := exists_ceil?_finite 0 (-1074)
    exact ⟨c, hc, fun n _ => (hiff n).trans (by simp)⟩
  by_cases hab : a < 2 ^ 53 ∨ 1 < b
  · have he := lastPlace_nonpos ha hle hab
    obtain ⟨c, hc, hiff⟩ := exists_ceil?_ofQuotient ha he
    refine ⟨c, hc, fun n hn => (hiff n).trans ⟨fun h => ?_, fun h => ?_⟩⟩
    · by_contra hlt
      exact absurd h (Nat.not_le.2 (lt_roundDiv hb hle hn he (Nat.not_le.1 hlt)))
    · refine roundDiv_le hb ?_
      unfold scaleUp
      calc a * pow2 _ ≤ n * b * pow2 _ := Nat.mul_le_mul_right _ h
        _ = n * pow2 _ * b := by ring
  · obtain ⟨rfl, rfl⟩ : a = 2 ^ 53 ∧ b = 1 := by omega
    exact ⟨2 ^ 53, by decide +kernel, by simp⟩

end Mailroom.Number.Binary64

namespace Mailroom.Mail

open Mailroom.Number

/-- The number of pages of `limit` messages, at least one. -/
def pagesOf (total limit : Nat) : Nat := max 1 ((total + limit - 1) / limit)

/-- **The number of pages is exact** for up to `2 ^ 53` messages. -/
theorem pageCount?_eq {total limit : Nat} (ht : total ≤ 2 ^ 53) (hl : 0 < limit) :
    pageCount? total limit = some (pagesOf total limit : Int) := by
  obtain ⟨c, hc, hiff⟩ := Binary64.exists_ceil? ht hl
  have hquotient : quotient total limit = Binary64.ofQuotient false total limit := by
    unfold quotient
    rw [decide_eq_false (by omega), decide_eq_false (by omega)]
    rfl
  unfold pageCount?
  rw [if_neg (by omega), hquotient, hc, Option.map_some]
  have heq : max 1 c = pagesOf total limit := by
    refine eq_of_forall_ge_iff fun n => ?_
    rw [pagesOf, max_le_iff, max_le_iff]
    exact and_congr_right fun hn => (hiff n hn).trans (Binary64.ceilDiv_le_iff hl).symm
  rw [← heq]
  simp

theorem paginate?_eq {total limit : Nat} (ht : total ≤ 2 ^ 53) (hl : 0 < limit) (page : Int) :
    paginate? total limit page
      = some ((pagesOf total limit : Int), min (max page 1) (pagesOf total limit)) := by
  rw [paginate?, pageCount?_eq ht hl]
  rfl

end Mailroom.Mail
