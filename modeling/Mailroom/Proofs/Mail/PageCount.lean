import Mathlib.Data.Rat.Floor
import Mailroom.Proofs.Number.Nearest
/-!
  Mailroom.Proofs.Mail.PageCount
  ────────────────────────────────
  **THE PAGE COUNT IS THE EXACT QUOTIENT ROUNDED UP.**

  The quotient is rounded to the nearest binary64 number before it is rounded up.  Up to
  `2 ^ 53` messages the rounding moves no quotient onto or past a whole number, however large
  a page is; a quotient so small that it is rounded to zero still makes one page.

      pagesOf_eq_ceil — the page count as the ceiling of a rational quotient
      pages_exact     — what any page request is answered with
-/
namespace Mailroom.Mail

open Mailroom.Number

/-- The number of pages is the exact quotient rounded up, and at least one. -/
theorem pagesOf_eq_ceil (total : Nat) {limit : Nat} (hl : 0 < limit) :
    (pagesOf total limit : Int) = max 1 ⌈(total : ℚ) / limit⌉ := by
  have hlimit : (0 : ℚ) < limit := by exact_mod_cast hl
  refine eq_of_forall_ge_iff fun n => ?_
  rw [pagesOf, Nat.cast_max, Nat.cast_one, max_le_iff, max_le_iff]
  refine and_congr_right fun hn => ?_
  have hn : 0 ≤ n := by omega
  obtain ⟨n, rfl⟩ := Int.eq_ofNat_of_zero_le hn
  calc (((total + limit - 1) / limit : Nat) : Int) ≤ n
      ↔ total ≤ n * limit := Int.ofNat_le.trans (Binary64.ceilDiv_le_iff hl)
    _ ↔ (total : ℚ) ≤ n * limit := by exact_mod_cast Iff.rfl
    _ ↔ (total : ℚ) / limit ≤ (n : Int) := by rw [div_le_iff₀ hlimit, Int.cast_natCast]
    _ ↔ ⌈(total : ℚ) / limit⌉ ≤ n := Int.ceil_le.symm

/-- The quotient that is rounded up is the number nearest to the exact one. -/
theorem nearest_quotient {total limit : Nat} (hl : 0 < limit) :
    Binary64.Nearest ((total : ℚ) / limit) (quotient total limit) := by
  have hnearest := Binary64.nearest_ofQuotient false total hl
  have hquotient : quotient total limit = Binary64.ofQuotient false total limit := by
    unfold quotient
    rw [decide_eq_false (by omega), decide_eq_false (by omega)]
    rfl
  rw [hquotient]
  exact hnearest

/-- **Page arithmetic is exact** for up to `2 ^ 53` messages and pages of any size: there are
as many pages as the exact quotient rounded up, at least one, and a page number stands for the
nearest page, although the quotient itself is only the number nearest to the exact one. -/
theorem pages_exact {total limit : Int} (hnonneg : 0 ≤ total) (hle : total ≤ 2 ^ 53)
    (hlimit : 1 ≤ limit) (page : Int) :
    Binary64.Nearest ((total : ℚ) / limit) (quotient total limit) ∧
      ∃ pages number, paginate? total limit page = some (pages, number) ∧
        pages = max 1 ⌈(total : ℚ) / limit⌉ ∧
        (1 ≤ number ∧ number ≤ pages) ∧
        (page < 1 → number = 1) ∧
        (1 ≤ page ∧ page ≤ pages → number = page) ∧
        (pages < page → number = pages) := by
  obtain ⟨total, rfl⟩ := Int.eq_ofNat_of_zero_le hnonneg
  have hpositive : 0 ≤ limit := by omega
  obtain ⟨limit, rfl⟩ := Int.eq_ofNat_of_zero_le hpositive
  have hl : 0 < limit := by omega
  have ht : total ≤ 2 ^ 53 := by exact_mod_cast hle
  have hpages := pagesOf_eq_ceil total hl
  have hone : 1 ≤ pagesOf total limit := le_max_left _ _
  simp only [Int.cast_natCast]
  refine ⟨nearest_quotient hl, _, _, paginate?_eq ht hl page, hpages, ?_⟩
  omega

/-- The last page of `2 ^ 53` messages, three to a page, and a page number far behind it. -/
theorem pages_exact_last : (0 : Int) ≤ 2 ^ 53 ∧ (2 ^ 53 : Int) ≤ 2 ^ 53 ∧ (1 : Int) ≤ 3 ∧
    paginate? (2 ^ 53) 3 (10 ^ 30) = some (3002399751580331, 3002399751580331) := by
  have hnonneg : (0 : Int) ≤ 2 ^ 53 := by decide
  have hlimit : (1 : Int) ≤ 3 := by decide
  obtain ⟨-, pages, number, hanswer, hpages, -, -, -, hbehind⟩ :=
    pages_exact hnonneg le_rfl hlimit (10 ^ 30)
  have hceil : ⌈((2 ^ 53 : Int) : ℚ) / (3 : Int)⌉ = 3002399751580331 := by
    rw [Int.ceil_eq_iff]
    norm_num
  rw [hceil, max_eq_right (by decide)] at hpages
  subst hpages
  rw [hbehind (by decide)] at hanswer
  exact ⟨hnonneg, le_rfl, hlimit, hanswer⟩

/-- One message more is rounded away. -/
example : paginate? (2 ^ 53 + 1) 1 1 = some (2 ^ 53, 1) := by decide +kernel

end Mailroom.Mail
