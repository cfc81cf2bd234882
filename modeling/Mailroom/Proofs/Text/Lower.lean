import Mathlib.Data.List.Forall2
import Mailroom.Proofs.Text.Trim
import Mailroom.Text.Case
/-!
  Mailroom.Proofs.Text.Lower
  ────────────────────────────────
  **A LOWER-CASED TEXT HAS NOTHING LEFT TO LOWER-CASE.**

  A character of a text becomes one of its `Form`s, one after the other, so what holds of
  the forms of single characters holds of whole texts.  There are two kinds of forms: an
  ASCII letter in lower case or the character as it was, and `Plain` characters, which
  are low, are not trimmed, and are no ASCII characters but i and k.

      lowerRuns_sane, lowerRuns_clear — what the table of letters is like
      Form.cases                      — the two kinds of forms
      lowerFrom_forms                 — a text becomes the forms of its characters
      lowerChars_lowerChars           — once lower-cased, always lower-cased
-/
namespace Mailroom.Text

/-! ## §1. The table of letters. -/

namespace LowerRun

/-- The lower-case form of the first letter of a run. -/
def low (r : LowerRun) : Nat := r.first + r.up - r.down

/-- The lower-case form of the last letter of a run. -/
def high (r : LowerRun) : Nat := r.last + r.up - r.down

/-- The code points from `lo` to `hi` are of no character that is trimmed. -/
def solid (lo hi : Nat) : Bool :=
  Nat.blt 0xA0 lo && (hi.blt 0x1680 || Nat.blt 0x1680 lo) && (hi.blt 0x2000 || Nat.blt 0x205F lo)
    && (hi.blt 0x3000 || Nat.blt 0x3000 lo)

/-- The letters of a run are no white space, and their lower-case forms are characters
that are not trimmed and not treated apart; of ASCII there is only k. -/
def sane (r : LowerRun) : Bool :=
  (r.step == 1 || r.step == 2) && r.down.ble r.first && r.first.ble r.last && solid r.first r.last
    && (r.low == 0x6B && r.high == 0x6B || solid r.low r.high)
    && (r.high.blt 0xD800 || Nat.blt 0xDFFF r.low && r.high.blt 0x110000)
    && (r.high.blt 0x130 || Nat.blt 0x130 r.low || r.step == 2 && r.low % 2 == 1)
    && (r.high.blt 0x3A3 || Nat.blt 0x3A3 r.low)

/-- No lower-case form of a letter of `r` is a letter of `q`. -/
def clear (r q : LowerRun) : Bool :=
  r.high.blt q.first || q.last.blt r.low
    || q.step == 2 && (r.step == 2 || r.first == r.last) && (r.low + q.first) % 2 == 1

end LowerRun

theorem lowerRuns_sane : ∀ r ∈ lowerRuns, r.sane = true := by
  have hall : lowerRuns.toList.all LowerRun.sane = true := by decide +kernel
  exact fun r hr => List.all_eq_true.1 hall r hr.val

theorem lowerRuns_clear : ∀ r ∈ lowerRuns, ∀ q ∈ lowerRuns, r.clear q = true := by
  have hall : (lowerRuns.toList.all fun r => lowerRuns.toList.all r.clear) = true := by
    decide +kernel
  exact fun r hr q hq => List.all_eq_true.1 (List.all_eq_true.1 hall r hr.val) q hq.val

/-- The run of a letter, with its place in it. -/
theorem exists_of_lowerRun? {n : Nat} {r : LowerRun} (h : lowerRun? n = some r) :
    r ∈ lowerRuns ∧ r.first ≤ n ∧ n ≤ r.last ∧ (n - r.first) % r.step = 0 := by
  have hmem := Array.mem_of_find?_eq_some h
  have hfound := Array.find?_some h
  simp only [Bool.and_eq_true, decide_eq_true_eq, beq_iff_eq] at hfound
  exact ⟨hmem, hfound.1.1, hfound.1.2, hfound.2⟩

/-- The lower-case form of a letter is no letter of the table. -/
theorem lowerRun?_form {n : Nat} {r : LowerRun} (h : lowerRun? n = some r) :
    lowerRun? (n + r.up - r.down) = none := by
  obtain ⟨hr, hfirst, hlast, hplace⟩ := exists_of_lowerRun? h
  have hsane := lowerRuns_sane r hr
  cases hq : lowerRun? (n + r.up - r.down) with
  | none => rfl
  | some q =>
    exfalso
    obtain ⟨hq, hfirst', hlast', hplace'⟩ := exists_of_lowerRun? hq
    have hclear := lowerRuns_clear r hr q hq
    simp only [LowerRun.clear, LowerRun.low, LowerRun.high, Bool.or_eq_true, Bool.and_eq_true,
      beq_iff_eq, Nat.blt_eq] at hclear
    simp only [LowerRun.sane, Bool.and_eq_true, Nat.ble_eq] at hsane
    obtain ⟨⟨⟨⟨⟨⟨⟨hstep, hdown⟩, hends⟩, -⟩, -⟩, -⟩, -⟩, -⟩ := hsane
    -- Both lie in one interval, or they differ in parity.
    rcases hclear with (hlt | hlt) | ⟨⟨hstep', hsingle⟩, hparity⟩
    · omega
    · omega
    · rw [hstep'] at hplace'
      rcases hsingle with htwo | hone
      · rw [htwo] at hplace
        omega
      · omega

/-- What the form of a letter of the table is like. -/
theorem form_of_lowerRun? {n : Nat} {r : LowerRun} (h : lowerRun? n = some r) :
    LowerRun.solid n n ∧ (n + r.up - r.down = 0x6B ∨
      LowerRun.solid (n + r.up - r.down) (n + r.up - r.down)) ∧
      Nat.isValidChar (n + r.up - r.down) ∧
      n + r.up - r.down ≠ 0x130 ∧ n + r.up - r.down ≠ 0x3A3 := by
  obtain ⟨hr, hfirst, hlast, hplace⟩ := exists_of_lowerRun? h
  have hsane := lowerRuns_sane r hr
  simp only [LowerRun.sane, LowerRun.solid, LowerRun.low, LowerRun.high, Bool.or_eq_true,
    Bool.and_eq_true, beq_iff_eq, Nat.blt_eq, Nat.ble_eq, Nat.isValidChar] at hsane ⊢
  obtain ⟨⟨⟨⟨⟨⟨⟨hstep, hdown⟩, hends⟩, hletters⟩, hforms⟩, hvalid⟩, hdotted⟩, hsigma⟩ := hsane
  refine ⟨by omega, by omega, by omega, ?_, by omega⟩
  rcases hdotted with (hlt | hlt) | ⟨htwo, hodd⟩
  · omega
  · omega
  · rw [htwo] at hplace
    omega

/-! ## §2. ASCII letters. -/

/-- What holds of the 128 ASCII characters one by one holds of every one of them. -/
theorem of_ascii {P : Char → Prop} (h : ∀ n < 128, P (Char.ofNat n)) {c : Char}
    (hc : c.toNat < 128) : P c := by
  have hn := h c.toNat hc
  rwa [Char.ofNat_toNat] at hn

theorem lowerAscii_of_ge {c : Char} (h : 128 ≤ c.toNat) : lowerAscii c = c := by
  unfold lowerAscii
  rw [if_neg (by simp; omega)]

@[simp] theorem lowerAscii_lowerAscii (c : Char) : lowerAscii (lowerAscii c) = lowerAscii c := by
  rcases Nat.lt_or_ge c.toNat 128 with hc | hc
  · exact of_ascii (P := fun c => lowerAscii (lowerAscii c) = lowerAscii c) (by decide) hc
  · rw [lowerAscii_of_ge hc, lowerAscii_of_ge hc]

@[simp] theorem isBlank_lowerAscii (c : Char) : isBlank (lowerAscii c) = isBlank c := by
  rcases Nat.lt_or_ge c.toNat 128 with hc | hc
  · exact of_ascii (P := fun c => isBlank (lowerAscii c) = isBlank c) (by decide) hc
  · rw [lowerAscii_of_ge hc]

@[simp] theorem isTrimmed_lowerAscii (c : Char) : isTrimmed (lowerAscii c) = isTrimmed c := by
  rcases Nat.lt_or_ge c.toNat 128 with hc | hc
  · exact of_ascii (P := fun c => isTrimmed (lowerAscii c) = isTrimmed c) (by decide) hc
  · rw [lowerAscii_of_ge hc]

theorem toNat_lowerAscii_lt {c : Char} (h : c.toNat < 128) : (lowerAscii c).toNat < 128 :=
  of_ascii (P := fun c => (lowerAscii c).toNat < 128) (by decide) h

/-! ## §3. The forms of a character. -/

/-- A character that stays as it is when it is lower-cased, wherever it stands. -/
structure IsLow (d : Char) : Prop where
  kept : lowerChar d = [d]
  noSigma : d.toNat ≠ 0x3A3

/-- What a character may become: its lower-case form or, a capital sigma, the final one. -/
inductive Form (c : Char) : List Char → Prop
  | usual : Form c (lowerChar c)
  | final (sigma : c.toNat = 0x3A3) : Form c [Char.ofNat 0x3C2]

/-- A character of a form that is no ASCII letter of the same word: of ASCII there are
only i, of the dotted I, and k, of the Kelvin sign. -/
structure Plain (d : Char) : Prop where
  low : IsLow d
  solid : isTrimmed d = false
  letter : d = 'i' ∨ d = 'k' ∨ 128 ≤ d.toNat

theorem toNat_ofNat_of_valid {n : Nat} (h : n.isValidChar) : (Char.ofNat n).toNat = n := by
  unfold Char.ofNat
  rw [dif_pos h]
  rfl

theorem isTrimmed_of_solid {c : Char} (h : LowerRun.solid c.toNat c.toNat = true) :
    isTrimmed c = false := by
  simp only [LowerRun.solid, Bool.and_eq_true, Bool.or_eq_true, Nat.blt_eq] at h
  simp only [isTrimmed, isBlank, isSeparator, Bool.or_eq_false_iff, Bool.and_eq_false_iff,
    decide_eq_false_iff_not, beq_eq_false_iff_ne]
  omega

theorem ge_of_solid {n : Nat} (h : LowerRun.solid n n = true) : 128 ≤ n := by
  simp only [LowerRun.solid, Bool.and_eq_true, Nat.blt_eq] at h
  omega

/-- An ASCII character is low when it is no capital letter. -/
theorem isLow_of_ascii {c : Char} (h : c.toNat < 128) (hlow : lowerAscii c = c) : IsLow c where
  kept := by
    unfold lowerChar
    simp only [if_pos h, hlow]
  noSigma := by omega

/-- The form of a letter of the table. -/
theorem plain_form {n : Nat} {r : LowerRun} (h : lowerRun? n = some r) :
    Plain (Char.ofNat (n + r.up - r.down)) := by
  obtain ⟨-, hform, hvalid, hdotted, hsigma⟩ := form_of_lowerRun? h
  have hnat := toNat_ofNat_of_valid hvalid
  rcases hform with hk | hsolid
  · rw [hk]
    exact ⟨isLow_of_ascii (by decide) (by decide), by decide, by decide⟩
  · have hge := ge_of_solid hsolid
    refine ⟨⟨?_, by omega⟩, isTrimmed_of_solid (hnat.symm ▸ hsolid), .inr (.inr (by omega))⟩
    unfold lowerChar
    rw [hnat, if_neg (by omega), if_neg (by simpa using hdotted), if_neg (by simpa using hsigma),
      lowerRun?_form h]

theorem plain_final : Plain (Char.ofNat 0x3C2) :=
  ⟨⟨by decide +kernel, by decide⟩, by decide, by decide⟩

theorem plain_sigma : Plain (Char.ofNat 0x3C3) :=
  ⟨⟨by decide +kernel, by decide⟩, by decide, by decide⟩

theorem plain_i : Plain 'i' := ⟨isLow_of_ascii (by decide) (by decide), by decide, by decide⟩

theorem plain_dot : Plain (Char.ofNat 0x307) :=
  ⟨⟨by decide +kernel, by decide⟩, by decide, by decide⟩

/-- How a character is lower-cased: as ASCII, apart from the table, by the table, or not. -/
theorem lowerChar_cases (c : Char) :
    (c.toNat < 128 ∧ lowerChar c = [lowerAscii c]) ∨
      ((c.toNat = 0x130 ∧ lowerChar c = ['i', Char.ofNat 0x307]) ∨
        (c.toNat = 0x3A3 ∧ lowerChar c = [Char.ofNat 0x3C3])) ∨
      (∃ r, lowerRun? c.toNat = some r ∧ lowerChar c = [Char.ofNat (c.toNat + r.up - r.down)]) ∨
      (128 ≤ c.toNat ∧ c.toNat ≠ 0x3A3 ∧ lowerChar c = [c]) := by
  unfold lowerChar
  dsimp only
  split
  next hascii => exact .inl ⟨hascii, rfl⟩
  next hascii =>
    split
    next hdotted => exact .inr (.inl (.inl ⟨eq_of_beq hdotted, rfl⟩))
    next =>
      split
      next hsigma => exact .inr (.inl (.inr ⟨eq_of_beq hsigma, rfl⟩))
      next hsigma =>
        split
        next r hr => exact .inr (.inr (.inl ⟨r, hr, rfl⟩))
        next => exact .inr (.inr (.inr ⟨by omega, by simpa using hsigma, rfl⟩))

/-- **The two kinds of forms**: the character itself, an ASCII letter in lower case, or
plain characters in the place of a letter above ASCII. -/
theorem Form.cases {c : Char} {ds : List Char} (h : Form c ds) :
    ds = [lowerAscii c] ∧ IsLow (lowerAscii c) ∨
      LowerRun.solid c.toNat c.toNat = true ∧ ds ≠ [] ∧ ∀ d ∈ ds, Plain d := by
  cases h with
  | final hsigma => exact .inr ⟨by rw [hsigma]; rfl, by simp, by simpa using plain_final⟩
  | usual =>
    rcases lowerChar_cases c with
      ⟨hascii, heq⟩ | (⟨hdotted, heq⟩ | ⟨hsigma, heq⟩) | ⟨r, hr, heq⟩ | ⟨hge, hsigma, heq⟩
    · exact .inl ⟨heq, isLow_of_ascii (toNat_lowerAscii_lt hascii) (lowerAscii_lowerAscii c)⟩
    · rw [heq]
      exact .inr ⟨by rw [hdotted]; rfl, by simp, by simpa using ⟨plain_i, plain_dot⟩⟩
    · rw [heq]
      exact .inr ⟨by rw [hsigma]; rfl, by simp, by simpa using plain_sigma⟩
    · rw [heq]
      exact .inr ⟨(form_of_lowerRun? hr).1, by simp, by simpa using plain_form hr⟩
    · rw [lowerAscii_of_ge hge]
      exact .inl ⟨heq, heq, hsigma⟩

theorem Form.ne_nil {c : Char} {ds : List Char} (h : Form c ds) : ds ≠ [] := by
  rcases h.cases with ⟨rfl, -⟩ | ⟨-, hne, -⟩
  · simp
  · exact hne

theorem Form.isLow {c d : Char} {ds : List Char} (h : Form c ds) (hd : d ∈ ds) : IsLow d := by
  rcases h.cases with ⟨rfl, hlow⟩ | ⟨-, -, hplain⟩
  · rw [List.mem_singleton.1 hd]
    exact hlow
  · exact (hplain d hd).low

/-- A character is trimmed when it is trimmed in lower case. -/
theorem Form.isTrimmed_eq {c d : Char} {ds : List Char} (h : Form c ds) (hd : d ∈ ds) :
    isTrimmed d = isTrimmed c := by
  rcases h.cases with ⟨rfl, -⟩ | ⟨hc, -, hplain⟩
  · rw [List.mem_singleton.1 hd, isTrimmed_lowerAscii]
  · rw [isTrimmed_of_solid hc, (hplain d hd).solid]

/-! ## §4. Texts. -/

section

variable {cs : List Char}

/-- **A text becomes the forms of its characters**, in order. -/
theorem lowerFrom_forms (before cs : List Char) :
    ∃ forms, List.Forall₂ Form cs forms ∧ lowerFrom before cs = forms.flatten := by
  induction cs generalizing before with
  | nil => exact ⟨[], .nil, rfl⟩
  | cons c cs ih =>
    obtain ⟨forms, hforms, heq⟩ := ih (c :: before)
    unfold lowerFrom
    rw [heq]
    split
    next hfinal =>
      simp only [Bool.and_eq_true, beq_iff_eq] at hfinal
      exact ⟨_ :: forms, .cons (.final hfinal.1.1) hforms, rfl⟩
    next => exact ⟨_ :: forms, .cons .usual hforms, rfl⟩

theorem lowerChars_forms (cs : List Char) :
    ∃ forms, List.Forall₂ Form cs forms ∧ lowerChars cs = forms.flatten :=
  lowerFrom_forms [] cs

theorem lowerFrom_of_isLow {before : List Char} (h : ∀ c ∈ cs, IsLow c) :
    lowerFrom before cs = cs := by
  induction cs generalizing before with
  | nil => rfl
  | cons c cs ih =>
    have hc := h c List.mem_cons_self
    unfold lowerFrom
    rw [if_neg (by simp [hc.noSigma]), hc.kept, ih fun d hd => h d (List.mem_cons_of_mem c hd)]
    rfl

theorem isLow_lowerChars (cs : List Char) : ∀ d ∈ lowerChars cs, IsLow d := by
  obtain ⟨forms, hforms, heq⟩ := lowerChars_forms cs
  rw [heq]
  clear heq
  induction hforms with
  | nil => simp
  | cons hform _ ih =>
    simp only [List.flatten_cons, List.mem_append]
    exact fun d hd => hd.elim hform.isLow (ih d)

/-- **A lower-cased text is left as it is.** -/
@[simp] theorem lowerChars_lowerChars (cs : List Char) :
    lowerChars (lowerChars cs) = lowerChars cs :=
  lowerFrom_of_isLow (isLow_lowerChars cs)

theorem first_of_forms {forms : List (List Char)} (h : List.Forall₂ Form cs forms) :
    ∀ d ∈ forms.flatten.head?, ∃ c ∈ cs.head?, isTrimmed d = isTrimmed c := by
  cases h with
  | nil => simp
  | @cons c ds cs forms hform _ =>
    obtain ⟨d, ds, rfl⟩ := List.exists_cons_of_ne_nil hform.ne_nil
    simpa using hform.isTrimmed_eq List.mem_cons_self

theorem last_of_forms {forms : List (List Char)} (h : List.Forall₂ Form cs forms) :
    ∀ d ∈ forms.flatten.getLast?, ∃ c ∈ cs.getLast?, isTrimmed d = isTrimmed c := by
  induction h with
  | nil => simp
  | @cons c ds cs forms hform hforms ih =>
    intro d hd
    cases hforms with
    | nil =>
      rw [List.flatten_cons, List.flatten_nil, List.append_nil] at hd
      exact ⟨c, rfl, hform.isTrimmed_eq (List.mem_of_getLast? hd)⟩
    | @cons c' ds' cs forms hform' _ =>
      -- The form of the next character is not empty, so the last one is not in `ds`.
      have hne : (ds' :: forms).flatten ≠ [] := by simp [hform'.ne_nil]
      rw [List.flatten_cons, List.getLast?_append_of_ne_nil _ hne] at hd
      exact ih d hd

/-- A trimmed text is trimmed in lower case. -/
theorem Trimmed.lowerChars (h : Trimmed isTrimmed cs) :
    Trimmed isTrimmed (lowerChars cs) := by
  obtain ⟨forms, hforms, heq⟩ := lowerChars_forms cs
  rw [heq]
  constructor
  · intro d hd
    obtain ⟨c, hc, hcd⟩ := first_of_forms hforms d hd
    exact hcd.trans (h.first c hc)
  · intro d hd
    obtain ⟨c, hc, hcd⟩ := last_of_forms hforms d hd
    exact hcd.trans (h.last c hc)

end

end Mailroom.Text
