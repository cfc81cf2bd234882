import Mailroom.Proofs.Filter.RoundTrip
import Mailroom.Proofs.Text.Lower
/-!
  Mailroom.Proofs.Filter.Tokens
  ────────────────────────────────
  **TOKENIZING LOSES NOTHING AND MERGES NOTHING.**

  The tokens of a filter are its characters without the white space, cut at parentheses and
  nowhere inside a word.  Two texts can be tokenized one by one if no word goes on from the
  first into the second, which is also how a single token stands in its text.

      Cut.append       — texts with a seam between them
      Cut.split        — what stands before and behind a lexeme
      isWord_iff       — an operator, letter by letter
      tokenize_cut     — all of it, for the tokens of filters
-/
namespace Mailroom.Filter

open Mailroom.Text

/-! ## §1. Seams. -/

/-- A text does not end inside a word. -/
def Ended (cs : List Char) : Prop := ∀ c ∈ cs.getLast?, isWordChar c = false

/-- No word goes on from one text into the next one: the first ends, or the second starts,
with white space or a parenthesis, or one of them is empty. -/
def Seam (xs ys : List Char) : Prop := Ended xs ∨ Apart ys

instance (cs : List Char) : Decidable (Ended cs) :=
  decidable_of_iff (cs.getLast?.all (!isWordChar ·) = true)
    (by simp [Ended, Option.all_eq_true])

instance (cs : List Char) : Decidable (Apart cs) :=
  decidable_of_iff (cs.head?.all (!isWordChar ·) = true)
    (by simp [Apart, Option.all_eq_true])

instance (xs ys : List Char) : Decidable (Seam xs ys) :=
  inferInstanceAs (Decidable (Ended xs ∨ Apart ys))

section

variable {xs ys zs cs w : List Char} {c : Char} {us vs ws : List (List Char)}

theorem ended_nil : Ended [] := nofun

theorem ended_singleton : Ended [c] ↔ isWordChar c = false := by
  simp [Ended]

theorem ended_append (hne : ys ≠ []) : Ended (xs ++ ys) ↔ Ended ys := by
  unfold Ended
  rw [List.getLast?_append_of_ne_nil xs hne]

theorem apart_append (hne : xs ≠ []) : Apart (xs ++ ys) ↔ Apart xs := by
  unfold Apart
  rw [List.head?_append_of_ne_nil xs hne]

theorem not_ended_of_word (hne : w ≠ []) (h : ∀ c ∈ w, isWordChar c = true) : ¬ Ended w := by
  intro hended
  have hlast := hended (w.getLast hne) (List.getLast?_eq_getLast_of_ne_nil hne)
  rw [h _ (List.getLast_mem hne)] at hlast
  cases hlast

theorem not_apart_of_word (hne : w ≠ []) (h : ∀ c ∈ w, isWordChar c = true) : ¬ Apart w := by
  obtain ⟨c, cs, rfl⟩ := List.exists_cons_of_ne_nil hne
  simp [apart_cons, h c List.mem_cons_self]

theorem Apart.of_append (h : Apart (xs ++ ys)) : Apart xs := by
  by_cases hne : xs = []
  · exact hne ▸ apart_nil
  · exact (apart_append hne).1 h

/-- A character of no word makes a seam behind it. -/
theorem Seam.of_not_word (hc : isWordChar c = false) (ys : List Char) : Seam [c] ys :=
  .inl (ended_singleton.2 hc)

theorem Seam.of_append (h : Seam (xs ++ ys) zs) : Seam ys zs := by
  refine h.imp_left fun hended => ?_
  by_cases hne : ys = []
  · exact hne ▸ ended_nil
  · exact (ended_append hne).1 hended

theorem Seam.of_cons (h : Seam (c :: xs) zs) : Seam xs zs :=
  of_append (show Seam ([c] ++ xs) zs from h)

/-- **Texts with a seam between them are cut one by one**, by induction on the first. -/
theorem Cut.append (h : Cut xs us) (h' : Cut ys vs) (hseam : Seam xs ys) :
    Cut (xs ++ ys) (us ++ vs) := by
  induction h with
  | nil => exact h'
  | blank hc _ ih => exact .blank hc (ih hseam.of_cons)
  | paren hc _ ih => exact .paren hc (ih hseam.of_cons)
  | @word w xs us hne hw hends _ ih =>
    rw [List.append_assoc]
    refine .word hne hw ?_ (ih hseam.of_append)
    by_cases hnil : xs = []
    · -- The first text ends in the word, so it is the second one that must not go on with it.
      rw [hnil, List.append_nil] at hseam
      rw [hnil, List.nil_append]
      exact hseam.resolve_left (not_ended_of_word hne hw)
    · exact (apart_append hnil).2 hends

end

/-! ## §2. Where a lexeme stands. -/

/-- A lexeme between what stands before and behind it: a parenthesis, or a maximal run of
characters that are neither white space nor parentheses. -/
inductive Stands (before after : List Char) : List Char → Prop
  | paren {c : Char} (h : isParen c = true) : Stands before after [c]
  | word {w : List Char} (nonempty : w ≠ []) (h : ∀ c ∈ w, isWordChar c = true)
      (starts : Ended before) (ends : Apart after) : Stands before after w

section

variable {xs before after cs w : List Char} {us vs ws : List (List Char)}

/-- A lexeme stands as it did when a text comes in front, with a seam between. -/
theorem Stands.behind (h : Stands before after w) (hseam : Seam xs (before ++ w ++ after)) :
    Stands (xs ++ before) after w := by
  cases h with
  | paren hc => exact .paren hc
  | word hne hw hstarts hends =>
    refine .word hne hw ?_ hends
    by_cases hnil : before = []
    · rw [hnil, List.nil_append] at hseam
      rw [hnil, List.append_nil]
      exact hseam.resolve_right fun hapart =>
        not_apart_of_word hne hw ((apart_append hne).1 hapart)
    · exact (ended_append hnil).2 hstarts

/-- **What stands before and behind a lexeme is cut into the lexemes before and behind it**,
by induction on the cut. -/
theorem Cut.split (h : Cut cs us) (hus : us = ws ++ w :: vs) :
    ∃ before after, cs = before ++ w ++ after ∧ Cut before ws ∧ Cut after vs ∧
      Stands before after w := by
  induction h generalizing ws with
  | nil => simp at hus
  | @blank c cs us hc _ ih =>
    obtain ⟨before, after, rfl, hbefore, hafter, hstands⟩ := ih hus
    have hseam := Seam.of_not_word (c := c) (by simp [isWordChar, hc]) (before ++ w ++ after)
    exact ⟨c :: before, after, rfl, .blank hc hbefore, hafter, hstands.behind hseam⟩
  | @paren c cs us hc hcs ih =>
    cases ws with
    | nil =>
      cases hus
      exact ⟨[], cs, rfl, .nil, hcs, .paren hc⟩
    | cons v ws =>
      cases hus
      obtain ⟨before, after, rfl, hbefore, hafter, hstands⟩ := ih rfl
      have hseam := Seam.of_not_word (c := c) (by simp [isWordChar, hc]) (before ++ w ++ after)
      exact ⟨c :: before, after, rfl, .paren hc hbefore, hafter, hstands.behind hseam⟩
  | @word v cs us hne hv hends hcs ih =>
    cases ws with
    | nil =>
      cases hus
      exact ⟨[], cs, rfl, .nil, hcs, .word hne hv ended_nil hends⟩
    | cons v' ws =>
      cases hus
      obtain ⟨before, after, rfl, hbefore, hafter, hstands⟩ := ih rfl
      have hapart : Apart before := hends.of_append.of_append
      refine ⟨v ++ before, after, by simp, .word hne hv hapart hbefore, hafter, ?_⟩
      exact hstands.behind (.inr hends)

/-- What is cut out of a text is all but its white space, in order. -/
theorem Cut.flatten_eq (h : Cut cs ws) : ws.flatten = cs.filter fun c => !isBlank c := by
  induction h with
  | nil => rfl
  | blank hc _ ih => simp [hc, ih]
  | paren hc _ ih => simp [isBlank_of_isParen hc, ih]
  | @word w cs ws _ hw _ _ ih =>
    have hkept : ∀ c ∈ w, (!isBlank c) = true := by
      intro c hc
      simp [(isWordChar_iff.1 (hw c hc)).1]
    rw [List.flatten_cons, ih, List.filter_append, List.filter_eq_self.2 hkept]

end

/-! ## §3. Operators. -/

/-- The word of an operator. -/
def Kind.operator? : Kind → Option String
  | .and => some "AND"
  | .or => some "OR"
  | .not => some "NOT"
  | .lparen | .rparen | .tag => none

/-- A text is a word in some letter case: letter by letter, the capital or the small one. -/
def InAnyCase (word s : String) : Prop :=
  List.Forall₂ (fun c letter => c = letter ∨ c = lowerAscii letter) s.toList word.toList

section

variable {k : Kind} {op s : String} {l c : Char} {cs ls before : List Char}

theorem mem_operators (h : k.operator? = some op) : op ∈ operators := by
  cases k <;> cases h <;> decide

/-- The letters of the operators. -/
def operatorLetters : List Char := ['A', 'N', 'D', 'O', 'R', 'T']

/-- The letters of the operators are ASCII, and not those two that are also the capitals of
characters above. -/
theorem of_mem_operatorLetters (h : l ∈ operatorLetters) : l ≠ 'I' ∧ l ≠ 'S' ∧ l.toNat < 128 := by
  have hall : (operatorLetters.all fun l => l != 'I' && l != 'S' && l.toNat.blt 128) = true := by
    decide
  simpa [and_assoc] using List.all_eq_true.1 hall l h

/-- A letter of an operator is the capital of itself and of its small letter only. -/
theorem capital_eq_iff (hl : l ∈ operatorLetters) : capital c = l ↔ c = l ∨ c = lowerAscii l := by
  obtain ⟨hi, hs, hlow⟩ := of_mem_operatorLetters hl
  rcases Nat.lt_or_ge c.toNat 128 with hc | hc
  · refine of_ascii (P := fun c => capital c = l ↔ c = l ∨ c = lowerAscii l) ?_ hc
    simp only [operatorLetters, List.mem_cons, List.not_mem_nil, or_false] at hl
    rcases hl with rfl | rfl | rfl | rfl | rfl | rfl <;> decide
  · have hother : ∀ d : Char, d.toNat < 128 → c ≠ d := by
      rintro d hd rfl
      omega
    have hcapital : capital c ≠ l := by
      unfold capital upperAscii
      split
      · exact hi.symm
      split
      · exact hs.symm
      · rw [if_neg (by simp; omega)]
        exact hother l hlow
    simp [hcapital, hother l hlow, hother _ (toNat_lowerAscii_lt hlow)]

theorem mem_operatorLetters (hop : op ∈ operators) (hl : l ∈ op.toList) : l ∈ operatorLetters := by
  have hall : (operators.all fun op => op.toList.all operatorLetters.contains) = true := by decide
  simpa using List.all_eq_true.1 (List.all_eq_true.1 hall op hop) l hl

theorem map_capital_eq_iff (h : ∀ l ∈ ls, l ∈ operatorLetters) : cs.map capital = ls ↔
    List.Forall₂ (fun c letter => c = letter ∨ c = lowerAscii letter) cs ls := by
  induction cs generalizing ls with
  | nil => cases ls <;> simp
  | cons c cs ih =>
    cases ls with
    | nil => simp
    | cons l ls =>
      obtain ⟨hl, hls⟩ := List.forall_mem_cons.1 h
      rw [List.map_cons, List.cons.injEq, List.forall₂_cons, capital_eq_iff hl, ih hls]

/-- **A text is compared with an operator letter by letter.** -/
theorem isWord_iff (hop : op ∈ operators) : isWord op s = true ↔ InAnyCase op s := by
  rw [isWord, beq_iff_eq, map_capital_eq_iff fun l => mem_operatorLetters hop, InAnyCase]

/-- No text is two operators. -/
theorem isWord_unique {op' : String} (h : isWord op s = true) (h' : isWord op' s = true) :
    op = op' := by
  rw [isWord, beq_iff_eq] at h h'
  exact String.toList_injective (h.symm.trans h')

/-- A text has the kind of an operator just when it is compared with it successfully. -/
theorem kindOf_eq_iff (h : k.operator? = some op) : kindOf s = k ↔ isWord op s = true := by
  have hopen : s = "(" → isWord op s = false := by
    rintro rfl
    cases k <;> cases h <;> decide
  have hclose : s = ")" → isWord op s = false := by
    rintro rfl
    cases k <;> cases h <;> decide
  have hone : ∀ op', op' ≠ op → isWord op s = true → isWord op' s = false := fun op' hne hop =>
    Bool.eq_false_iff.2 fun hop' => hne (isWord_unique hop' hop)
  unfold kindOf
  cases k with
  | and => cases h; grind
  | or => cases h; grind
  | not => cases h; grind
  | lparen | rparen | tag => cases h

theorem lowerFrom_of_ascii (h : ∀ c ∈ cs, c.toNat < 128) :
    lowerFrom before cs = cs.map lowerAscii := by
  induction cs generalizing before with
  | nil => rfl
  | cons c cs ih =>
    obtain ⟨hc, hcs⟩ := List.forall_mem_cons.1 h
    have hsigma : c.toNat ≠ 0x3A3 := by omega
    unfold lowerFrom lowerChar
    rw [if_neg (by simp [hsigma]), ih hcs]
    dsimp only
    rw [if_pos hc]
    rfl

/-- An operator in some letter case is that operator in lower case. -/
theorem InAnyCase.lower_eq (h : InAnyCase op s) (hop : op ∈ operators) : lower s = lower op := by
  have hascii : ∀ l ∈ op.toList, l.toNat < 128 := fun l hl =>
    (of_mem_operatorLetters (mem_operatorLetters hop hl)).2.2
  unfold InAnyCase at h
  rw [lower, lower, lowerChars, lowerChars, lowerFrom_of_ascii hascii]
  generalize s.toList = cs, op.toList = ls at h hascii
  obtain ⟨hcs, hmap⟩ : (∀ c ∈ cs, c.toNat < 128) ∧ cs.map lowerAscii = ls.map lowerAscii := by
    induction h with
    | nil => simp
    | @cons c l cs ls hc _ ih =>
      obtain ⟨hl, hls⟩ := List.forall_mem_cons.1 hascii
      obtain ⟨hcs, hmap⟩ := ih hls
      rcases hc with rfl | rfl
      · exact ⟨List.forall_mem_cons.2 ⟨hl, hcs⟩, by simp [hmap]⟩
      · exact ⟨List.forall_mem_cons.2 ⟨toNat_lowerAscii_lt hl, hcs⟩, by simp [hmap]⟩
  rw [lowerFrom_of_ascii hcs, hmap]

end

/-! ## §4. Tokens of filters. -/

/-- A token that stands some places further on. -/
def Token.shift (k : Nat) (t : Token) : Token := { t with position := t.position + k }

section

variable {n : Nat} {ws : List (List Char)} {ts us : List Token}

theorem number_shift (n k : Nat) (ws : List (List Char)) :
    number (n + k) ws = (number n ws).map (·.shift k) := by
  induction ws generalizing n with
  | nil => rfl
  | cons w ws ih =>
    rw [number, number, List.map_cons, ← ih, Nat.add_right_comm]
    rfl

theorem map_position_number (n : Nat) (ws : List (List Char)) :
    (number n ws).map (·.position) = List.range' n ws.length := by
  induction ws generalizing n with
  | nil => rfl
  | cons w ws ih => simp [number, ih, List.range'_succ]

theorem flatMap_text_number (n : Nat) (ws : List (List Char)) :
    (number n ws).flatMap (·.text.toList) = ws.flatten := by
  induction ws generalizing n with
  | nil => rfl
  | cons w ws ih => simp [number, ih]

theorem length_number (n : Nat) (ws : List (List Char)) : (number n ws).length = ws.length := by
  rw [← List.length_map (·.position), map_position_number, List.length_range']

/-- Numbered lexemes are split as the lexemes are. -/
theorem number_split (h : number n ws = ts ++ us) :
    ∃ vs xs, ws = vs ++ xs ∧ number n vs = ts ∧ number (n + ts.length) xs = us := by
  have htake : number n (ws.take ts.length) = ts := by rw [number_take, h, List.take_left]
  refine ⟨ws.take ts.length, ws.drop ts.length, (List.take_append_drop _ _).symm, htake, ?_⟩
  have hlength : (ws.take ts.length).length = ts.length := by rw [← length_number n, htake]
  have happend := number_append n (ws.take ts.length) (ws.drop ts.length)
  rw [List.take_append_drop, h, htake, hlength] at happend
  exact (List.append_cancel_left happend).symm

end

section

variable {s s' : String} {t : Token} {ts us : List Token} {k : Kind} {op : String}

/-- **What stands before and behind a token is tokenized as it is in the whole.** -/
theorem tokenize_split (h : tokenize s = ts ++ t :: us) : ∃ before after : String,
    s = before ++ t.text ++ after ∧ tokenize before = ts ∧
      us = (tokenize after).map (·.shift (ts.length + 1)) ∧
      Stands before.toList after.toList t.text.toList := by
  obtain ⟨ws, rest, hlex, hws, hrest⟩ := number_split h
  cases rest with
  | nil => cases hrest
  | cons w vs =>
    obtain ⟨ht, hus⟩ := List.cons.inj hrest
    subst ht
    obtain ⟨before, after, hs, hbefore, hafter, hstands⟩ := (cut_lexemes s.toList).split hlex
    refine ⟨String.ofList before, String.ofList after, ?_, ?_, ?_, ?_⟩
    · exact String.toList_injective (by simp [hs])
    · rw [tokenize, String.toList_ofList, hbefore.lexemes_eq, hws]
    · rw [tokenize, String.toList_ofList, hafter.lexemes_eq, ← number_shift]
      exact hus.symm
    · simpa using hstands

/-- **A token is an operator just when it is spelled as one**, and its kind in lower case. -/
theorem kind_iff (ht : t ∈ tokenize s) (h : k.operator? = some op) :
    (t.kind = k ↔ InAnyCase op t.text) ∧ (t.kind = k → lower t.text = lower op) := by
  have hop := mem_operators h
  have hiff : t.kind = k ↔ InAnyCase op t.text := by
    rw [(of_mem_number ht).1, kindOf_eq_iff h, isWord_iff hop]
  exact ⟨hiff, fun hk => (hiff.1 hk).lower_eq hop⟩

/-- **Texts with a seam between them are tokenized one by one.** -/
theorem tokenize_append (h : Seam s.toList s'.toList) :
    tokenize (s ++ s') = tokenize s ++ (tokenize s').map (·.shift (tokenize s).length) := by
  have hcut := (cut_lexemes s.toList).append (cut_lexemes s'.toList) h
  unfold tokenize
  rw [String.toList_append, hcut.lexemes_eq, number_append, ← number_shift, length_number]

/-- **Tokenizing loses nothing and merges nothing.**  The tokens of a filter are numbered from
zero on, and their texts are the filter without its white space.  Each one stands in the filter
as a parenthesis or as a maximal run of other characters that are not white space, and what is
before and behind it has the tokens before and behind it.  It is an operator just when it is
spelled as one in some letter case, which is then so in lower case too.  A filter that is put
together of two with a seam between them has the tokens of the first and behind them those of
the second, further on. -/
theorem tokenize_cut (s : String) :
    (tokenize s).map (·.position) = List.range (tokenize s).length ∧
    (tokenize s).flatMap (·.text.toList) = s.toList.filter (fun c => !isBlank c) ∧
    (∀ ts t us, tokenize s = ts ++ t :: us → ∃ before after : String,
      s = before ++ t.text ++ after ∧ tokenize before = ts ∧
      us = (tokenize after).map (·.shift (ts.length + 1)) ∧
      Stands before.toList after.toList t.text.toList) ∧
    (∀ t ∈ tokenize s, ∀ k op, k.operator? = some op →
      (t.kind = k ↔ InAnyCase op t.text) ∧ (t.kind = k → lower t.text = lower op)) ∧
    ∀ s' : String, Seam s.toList s'.toList →
      tokenize (s ++ s') = tokenize s ++ (tokenize s').map (·.shift (tokenize s).length) := by
  refine ⟨?positions, ?texts, fun ts t us => tokenize_split, fun t ht k op => kind_iff ht,
    fun s' => tokenize_append⟩
  case positions =>
    rw [tokenize, map_position_number, length_number, List.range_eq_range']
  case texts => rw [tokenize, flatMap_text_number, (cut_lexemes s.toList).flatten_eq]

/-- An operator between other white space than the space, and texts that meet at a
parenthesis. -/
theorem tokenize_cut_sample :
    let s := "a\u00a0oR\u2003b"
    let t : Token := ⟨.or, "oR", 1⟩
    (∃ before after : String, s = before ++ "oR" ++ after ∧ tokenize before = [⟨.tag, "a", 0⟩] ∧
      [⟨.tag, "b", 2⟩] = (tokenize after).map (·.shift 2) ∧
      Stands before.toList after.toList "oR".toList) ∧
    t ∈ tokenize s ∧ InAnyCase "OR" t.text ∧ lower t.text = lower "OR" ∧
    Seam s.toList ")c".toList ∧
    tokenize (s ++ ")c") = tokenize s ++ [⟨.rparen, ")", 3⟩, ⟨.tag, "c", 4⟩] := by
  intro s t
  have htokens : tokenize s = [⟨.tag, "a", 0⟩] ++ t :: [⟨.tag, "b", 2⟩] := by decide +kernel
  have ht : t ∈ tokenize s := by decide +kernel
  have hseam : Seam s.toList ")c".toList := by decide +kernel
  have hshift : (tokenize ")c").map (·.shift (tokenize s).length)
      = [⟨.rparen, ")", 3⟩, ⟨.tag, "c", 4⟩] := by decide +kernel
  obtain ⟨-, -, hsplit, hkind, happend⟩ := tokenize_cut s
  obtain ⟨hiff, hlower⟩ := hkind t ht .or "OR" rfl
  exact ⟨hsplit _ t _ htokens, ht, hiff.1 rfl, hlower rfl, hseam, hshift ▸ happend ")c" hseam⟩

end

end Mailroom.Filter
