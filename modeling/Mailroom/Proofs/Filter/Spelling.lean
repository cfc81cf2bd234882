import Mailroom.Filter.Token
/-!
  Mailroom.Proofs.Filter.Spelling
  ────────────────────────────────
  **WHICH TEXTS HAVE WHICH TOKENS.**

  A lexeme is a parenthesis or a word, and every token of a filter is one.  A lexeme is
  found again where it was written, as long as no word goes on behind it, so any list
  of lexemes can be spelled out.

      lexemes_append    — a lexeme in front of a text that does not go on with it
      cut_lexemes       — a text is cut into the lexemes that are read from it
      tokenize_spelled  — lexemes with spaces behind them are read as they are
-/
namespace Mailroom.Filter

open Mailroom.Text

/-! ## §1. Lexemes. -/

/-- A text that is a token by itself: a parenthesis, or a word. -/
inductive IsLexeme : List Char → Prop
  | paren {c : Char} (h : isParen c = true) : IsLexeme [c]
  | word {w : List Char} (nonempty : w ≠ []) (h : ∀ c ∈ w, isWordChar c = true) : IsLexeme w

/-- A text does not go on with a word. -/
def Apart (cs : List Char) : Prop := ∀ c ∈ cs.head?, isWordChar c = false

theorem apart_nil : Apart [] := nofun

theorem apart_cons {c : Char} {cs : List Char} : Apart (c :: cs) ↔ isWordChar c = false := by
  simp [Apart]

section

variable {c : Char} {cs w : List Char}

theorem isWordChar_iff : isWordChar c = true ↔ isBlank c = false ∧ isParen c = false := by
  simp [isWordChar]

theorem isBlank_of_isParen (h : isParen c = true) : isBlank c = false := by
  unfold isParen at h
  rcases Bool.or_eq_true_iff.1 h with h | h <;> rw [eq_of_beq h] <;> decide

theorem lexemes_cons (c : Char) (cs : List Char) : lexemes (c :: cs) =
    if isBlank c then lexemes cs
    else if isParen c then [c] :: lexemes cs
    else match cs, lexemes cs with
      | d :: _, w :: ws => if isWordChar d then (c :: w) :: ws else [c] :: w :: ws
      | _, ws => [c] :: ws :=
  lexemes.eq_def (c :: cs)

theorem lexemes_blank (h : isBlank c = true) : lexemes (c :: cs) = lexemes cs := by
  rw [lexemes_cons, if_pos h]

theorem lexemes_paren (h : isParen c = true) : lexemes (c :: cs) = [c] :: lexemes cs := by
  rw [lexemes_cons, isBlank_of_isParen h, if_neg Bool.false_ne_true, if_pos h]

/-- A word of one character ends where no word goes on. -/
theorem lexemes_single (hc : isWordChar c = true) (h : Apart cs) :
    lexemes (c :: cs) = [c] :: lexemes cs := by
  obtain ⟨hblank, hparen⟩ := isWordChar_iff.1 hc
  rw [lexemes_cons, hblank, hparen, if_neg Bool.false_ne_true, if_neg Bool.false_ne_true]
  split
  next d ds w ws hlex => rw [apart_cons.1 h, if_neg Bool.false_ne_true, hlex]
  next => rfl

/-- A word grows by a character in front of it. -/
theorem lexemes_grow {d : Char} {ws : List (List Char)} (hc : isWordChar c = true)
    (hd : isWordChar d = true) (h : lexemes (d :: cs) = w :: ws) :
    lexemes (c :: d :: cs) = (c :: w) :: ws := by
  obtain ⟨hblank, hparen⟩ := isWordChar_iff.1 hc
  rw [lexemes_cons, hblank, hparen, if_neg Bool.false_ne_true, if_neg Bool.false_ne_true, h]
  exact if_pos hd

/-- A word is read up to where no word goes on, by induction on its characters. -/
theorem lexemes_word (hw : ∀ c ∈ w, isWordChar c = true) (hne : w ≠ []) (h : Apart cs) :
    lexemes (w ++ cs) = w :: lexemes cs := by
  induction w with
  | nil => exact absurd rfl hne
  | cons c w ih =>
    obtain ⟨hc, hw⟩ := List.forall_mem_cons.1 hw
    cases w with
    | nil => exact lexemes_single hc h
    | cons d w => exact lexemes_grow hc (hw d List.mem_cons_self) (ih hw nofun)

/-- **A lexeme is read as it is written**, where no word goes on behind it. -/
theorem lexemes_append (hw : IsLexeme w) (h : Apart cs) :
    lexemes (w ++ cs) = w :: lexemes cs := by
  cases hw with
  | paren hc => exact lexemes_paren hc
  | word hne hw => exact lexemes_word hw hne h

end

/-! ## §2. Texts cut into lexemes. -/

/-- A text cut into its lexemes, from the front: white space is left out, a parenthesis stands
by itself, and a word goes on as far as it can. -/
inductive Cut : List Char → List (List Char) → Prop
  | nil : Cut [] []
  | blank {c : Char} {cs : List Char} {ws : List (List Char)} (h : isBlank c = true)
      (rest : Cut cs ws) : Cut (c :: cs) ws
  | paren {c : Char} {cs : List Char} {ws : List (List Char)} (h : isParen c = true)
      (rest : Cut cs ws) : Cut (c :: cs) ([c] :: ws)
  | word {w cs : List Char} {ws : List (List Char)} (nonempty : w ≠ [])
      (h : ∀ c ∈ w, isWordChar c = true) (ends : Apart cs) (rest : Cut cs ws) :
      Cut (w ++ cs) (w :: ws)

section

variable {cs w : List Char} {ws : List (List Char)}

theorem Cut.lexemes_eq (h : Cut cs ws) : lexemes cs = ws := by
  induction h with
  | nil => rfl
  | blank h _ ih => rw [lexemes_blank h, ih]
  | paren h _ ih => rw [lexemes_paren h, ih]
  | word hne h hends _ ih => rw [lexemes_word h hne hends, ih]

/-- A text that starts with a word is that word and what follows it. -/
theorem exists_word {c : Char} (hc : isWordChar c = true) (cs : List Char) :
    ∃ w rest, c :: cs = w ++ rest ∧ w ≠ [] ∧ (∀ d ∈ w, isWordChar d = true) ∧ Apart rest ∧
      rest.length ≤ cs.length := by
  refine ⟨(c :: cs).takeWhile isWordChar, (c :: cs).dropWhile isWordChar,
    List.takeWhile_append_dropWhile.symm, ?_, List.all_eq_true.1 List.all_takeWhile, ?_, ?_⟩
  · rw [List.takeWhile_cons_of_pos hc]
    exact List.cons_ne_nil c _
  · intro d hd
    have hstop := List.head?_dropWhile_not isWordChar (c :: cs)
    rw [hd] at hstop
    exact hstop
  · rw [List.dropWhile_cons_of_pos hc]
    exact (List.dropWhile_suffix _).length_le

/-- Every text is cut into some lexemes, by induction on its length. -/
theorem exists_cut (cs : List Char) : ∃ ws, Cut cs ws := by
  induction hn : cs.length using Nat.strongRecOn generalizing cs with
  | _ n ih =>
  cases cs with
  | nil => exact ⟨[], .nil⟩
  | cons c cs =>
    have hlt : cs.length < n := hn ▸ Nat.lt_succ_self _
    by_cases hword : isWordChar c = true
    · obtain ⟨w, rest, hcut, hne, hw, hends, hle⟩ := exists_word hword cs
      obtain ⟨ws, h⟩ := ih _ (Nat.lt_of_le_of_lt hle hlt) rest rfl
      exact ⟨w :: ws, hcut ▸ .word hne hw hends h⟩
    · obtain ⟨ws, h⟩ := ih _ hlt cs rfl
      by_cases hblank : isBlank c = true
      · exact ⟨ws, .blank hblank h⟩
      · refine ⟨[c] :: ws, .paren ?_ h⟩
        simpa [isWordChar, hblank] using hword

/-- **A text is cut into the lexemes that are read from it.** -/
theorem cut_lexemes (cs : List Char) : Cut cs (lexemes cs) := by
  obtain ⟨ws, h⟩ := exists_cut cs
  rwa [h.lexemes_eq]

theorem Cut.isLexeme (h : Cut cs ws) (hw : w ∈ ws) : IsLexeme w := by
  induction h with
  | nil => cases hw
  | blank _ _ ih => exact ih hw
  | paren h _ ih => exact (List.mem_cons.1 hw).elim (· ▸ .paren h) ih
  | word hne h _ _ ih => exact (List.mem_cons.1 hw).elim (· ▸ .word hne h) ih

/-- **The tokens of a text are lexemes.** -/
theorem IsLexeme.of_mem (hw : w ∈ lexemes cs) : IsLexeme w := (cut_lexemes cs).isLexeme hw

end

/-! ## §3. Spelling lexemes out. -/

/-- A text with some lexemes: each has a space behind it. -/
def spelled (ws : List (List Char)) : List Char := ws.flatMap (· ++ [' '])

theorem lexemes_spelled {ws : List (List Char)} (h : ∀ w ∈ ws, IsLexeme w) :
    lexemes (spelled ws) = ws := by
  induction ws with
  | nil => rfl
  | cons w ws ih =>
    obtain ⟨hw, hws⟩ := List.forall_mem_cons.1 h
    have hspace : lexemes (' ' :: spelled ws) = ws := (lexemes_blank (by decide)).trans (ih hws)
    show lexemes (w ++ [' '] ++ spelled ws) = w :: ws
    rw [List.append_assoc, List.singleton_append, lexemes_append hw (apart_cons.2 (by decide)),
      hspace]

/-! ## §4. Tokens. -/

section

variable {t : Token} {ws : List (List Char)} {n i : Nat}

theorem number_append (n : Nat) (ws vs : List (List Char)) :
    number n (ws ++ vs) = number n ws ++ number (n + ws.length) vs := by
  induction ws generalizing n with
  | nil => rfl
  | cons w ws ih =>
    show _ :: number (n + 1) (ws ++ vs) = _ :: (number (n + 1) ws ++ _)
    rw [ih, List.length_cons, Nat.add_assoc, Nat.add_comm 1]

theorem number_take (n k : Nat) (ws : List (List Char)) :
    number n (ws.take k) = (number n ws).take k := by
  induction ws generalizing n k with
  | nil => simp [number]
  | cons w ws ih =>
    cases k with
    | zero => rfl
    | succ k => exact congrArg (_ :: ·) (ih (n + 1) k)

/-- A token stands at the index that it tells. -/
theorem position_of_number {ts us : List Token} (h : number n ws = ts ++ t :: us) :
    t.position = n + ts.length := by
  induction ts generalizing n ws with
  | nil =>
    cases ws with
    | nil => cases h
    | cons w ws => exact (congrArg Token.position (List.cons.inj h).1).symm
  | cons u ts ih =>
    cases ws with
    | nil => cases h
    | cons w ws =>
      rw [ih (List.cons.inj h).2, List.length_cons]
      omega

/-- A token is what its text is, which is one of the lexemes. -/
theorem of_mem_number (h : t ∈ number n ws) : t.kind = kindOf t.text ∧ t.text.toList ∈ ws := by
  induction ws generalizing n with
  | nil => cases h
  | cons w ws ih =>
    rcases List.mem_cons.1 h with rfl | h
    · exact ⟨rfl, by rw [String.toList_ofList]; exact List.mem_cons_self⟩
    · exact (ih h).imp_right (List.mem_cons_of_mem w)

/-- **Lexemes that are spelled out are read as they are.** -/
theorem tokenize_spelled (h : ∀ w ∈ ws, IsLexeme w) :
    tokenize (String.ofList (spelled ws)) = number 0 ws := by
  rw [tokenize, String.toList_ofList, lexemes_spelled h]

end

end Mailroom.Filter
