import Mailroom.Imap.Wire
import Mailroom.Proofs.Text.Trim
import Mailroom.Proofs.Text.Utf8
/-!
  Mailroom.Proofs.Imap.Numeral
  ────────────────────────────────
  **NUMBERS WRITTEN IN DIGITS ARE READ BACK.**

  A server writes numbers in decimal digits without leading zeros.  A numeral is read
  back as long as it is not longer than `maxDigits`; a longer one is refused.

      isByteDigit_numeral  — a numeral consists of digits
      number_numeral_iff   — and states its number, unless it is too long
-/
namespace Mailroom.Imap

open Mailroom.Text Mailroom.Number

/-- A number as it stands on a line. -/
def numeral (n : Nat) : Octets := octets (toString n)

/-! ## §1. Digits. -/

section

variable {c : Char} {cs : List Char} {n : Nat}

theorem numeral_eq (n : Nat) : numeral n = (Nat.toDigits 10 n).map fun c => UInt8.ofNat c.toNat := by
  rw [numeral, octets, Nat.toString_eq_ofList_toDigits, String.toList_ofList]

theorem numeral_ne_nil (n : Nat) : numeral n ≠ [] := by
  rw [numeral_eq]
  exact fun h => Nat.toDigits_ne_nil (List.map_eq_nil_iff.1 h)

theorem digit_bounds (h : c ∈ Nat.toDigits 10 n) : 48 ≤ c.toNat ∧ c.toNat ≤ 57 := by
  have hdigit := Nat.isDigit_of_mem_toDigits (by decide) (by decide) h
  rw [Char.isDigit, Bool.and_eq_true, decide_eq_true_eq, decide_eq_true_eq] at hdigit
  exact hdigit

theorem isByteDigit_numeral (n : Nat) : ∀ b ∈ numeral n, isByteDigit b = true := by
  intro b hb
  rw [numeral_eq] at hb
  obtain ⟨c, hc, rfl⟩ := List.mem_map.1 hb
  obtain ⟨hlo, hhi⟩ := digit_bounds hc
  rw [isByteDigit, Bool.and_eq_true, decide_eq_true_eq, decide_eq_true_eq,
    UInt8.le_iff_toNat_le, UInt8.le_iff_toNat_le, toNat_octet (by omega)]
  exact ⟨hlo, hhi⟩

/-! ## §2. Numbers. -/

theorem digitValue?_of_bounds (h : 48 ≤ c.toNat ∧ c.toNat ≤ 57) :
    digitValue? c = some (c.toNat - 48) := by
  unfold digitValue?
  rw [if_pos (by omega), if_pos (by simpa using h)]

/-- Digits are read to their end, by induction on them. -/
theorem digitTail_digits (h : ∀ c ∈ cs, 48 ≤ c.toNat ∧ c.toNat ≤ 57) :
    digitTail cs = (cs.map fun c => c.toNat - 48, []) := by
  induction cs with
  | nil => rfl
  | cons c cs ih =>
    have hc := h c List.mem_cons_self
    have hunder : c ≠ '_' := by
      rintro rfl
      exact absurd hc (by decide)
    rw [digitTail.eq_2 c cs fun _ _ hc _ => hunder hc, digitValue?_of_bounds hc,
      ih fun d hd => h d (List.mem_cons_of_mem c hd)]
    rfl

theorem digitGroup_digits (hne : cs ≠ []) (h : ∀ c ∈ cs, 48 ≤ c.toNat ∧ c.toNat ≤ 57) :
    digitGroup cs = (cs.map fun c => c.toNat - 48, []) := by
  obtain ⟨c, cs, rfl⟩ := List.exists_cons_of_ne_nil hne
  rw [digitGroup, digitValue?_of_bounds (h c List.mem_cons_self),
    digitTail_digits fun d hd => h d (List.mem_cons_of_mem c hd)]
  rfl

theorem takeSign_digits (h : ∀ c ∈ cs, 48 ≤ c.toNat ∧ c.toNat ≤ 57) :
    takeSign cs = (false, cs) := by
  refine takeSign.eq_3 cs ?_ ?_ <;>
  · rintro ds rfl
    exact absurd (h _ List.mem_cons_self) (by decide)

theorem trimWhile_digits (h : ∀ c ∈ cs, 48 ≤ c.toNat ∧ c.toNat ≤ 57) :
    trimWhile isTrimmed cs = cs := by
  have hsolid : ∀ c ∈ cs, isTrimmed c = false := by
    intro c hc
    obtain ⟨hlo, hhi⟩ := h c hc
    simp [isTrimmed, isBlank, isSeparator]
    omega
  exact Trimmed.trimWhile_eq
    ⟨fun c hc => hsolid c (List.mem_of_mem_head? hc), fun c hc => hsolid c (List.mem_of_getLast? hc)⟩

theorem readInteger_toDigits (n : Nat) : readInteger (Nat.toDigits 10 n) =
    if maxDigits < (Nat.toDigits 10 n).length then .error (.tooLong (Nat.toDigits 10 n).length)
    else .ok n := by
  have hbounds : ∀ c ∈ Nat.toDigits 10 n, 48 ≤ c.toNat ∧ c.toNat ≤ 57 := fun c hc => digit_bounds hc
  have hvalue : ofDigits ((Nat.toDigits 10 n).map fun c => c.toNat - 48) = n := by
    rw [ofDigits, List.foldl_map]
    exact Nat.ofDigitChars_eq_foldl.symm.trans Nat.ofDigitChars_ten_toDigits
  unfold readInteger
  rw [trimWhile_digits hbounds, takeSign_digits hbounds]
  dsimp only
  rw [digitGroup_digits Nat.toDigits_ne_nil hbounds]
  split
  next hnil =>
    exact absurd (List.map_eq_nil_iff.1 (Prod.mk.inj hnil).1) Nat.toDigits_ne_nil
  next ds _ hds =>
    obtain rfl := (Prod.mk.inj hds).1
    rw [List.length_map, hvalue]
    rfl
  next hrest => exact absurd rfl (hrest _)

/-- **A numeral states its number**, unless it is too long. -/
theorem number_numeral_iff (n : Nat) :
    number (numeral n) = .ok (n : Int) ↔ (numeral n).length ≤ maxDigits := by
  have hword : (numeral n).map (fun b => if b < 128 then Char.ofNat b.toNat else replacement)
      = Nat.toDigits 10 n := by
    rw [numeral_eq, List.map_map]
    refine (List.map_congr_left fun c hc => ?_).trans (List.map_id' _)
    obtain ⟨-, hhi⟩ := digit_bounds hc
    show (if UInt8.ofNat c.toNat < 128 then _ else _) = c
    rw [if_pos ((octet_lt_iff (by omega)).2 (show c.toNat < 128 by omega)), toNat_octet (by omega),
      Char.ofNat_toNat]
  rw [number, hword, readInteger_toDigits, numeral_eq, List.length_map]
  by_cases hlong : maxDigits < (Nat.toDigits 10 n).length
  · rw [if_pos hlong]
    exact iff_of_false nofun (by omega)
  · rw [if_neg hlong]
    exact iff_of_true rfl (by omega)

end

end Mailroom.Imap
