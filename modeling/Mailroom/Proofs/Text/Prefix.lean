import Mathlib.Data.List.Infix
import Mailroom.Proofs.Text.Trim
/-!
  Mailroom.Proofs.Text.Prefix
  ────────────────────────────────
  **WHAT A TEXT STARTS WITH, AND WHETHER IT STILL DOES WITHOUT ITS END.**

      dropPrefix?_eq_some_iff — reading a prefix
      prefix_dropEndWhile     — a prefix that ends in marks, of a text without the marks at its end
-/
namespace Mailroom.Text

variable {α : Type}

section

variable [BEq α] [LawfulBEq α] {p xs rest : List α}

theorem dropPrefix?_eq_some_iff : dropPrefix? p xs = some rest ↔ xs = p ++ rest := by
  induction p generalizing xs with
  | nil =>
    rw [dropPrefix?, Option.some_inj]
    rfl
  | cons a p ih =>
    cases xs with
    | nil => exact iff_of_false nofun nofun
    | cons b xs =>
      rw [dropPrefix?, List.cons_append, List.cons.injEq]
      by_cases hab : a = b
      · rw [if_pos (beq_iff_eq.2 hab), ih, and_iff_right hab.symm]
      · rw [if_neg fun h => hab (beq_iff_eq.1 h)]
        exact iff_of_false nofun fun h => hab h.1.symm

theorem isSome_dropPrefix?_iff : (dropPrefix? p xs).isSome = true ↔ p <+: xs := by
  rw [Option.isSome_iff_exists]
  exact exists_congr fun _ => dropPrefix?_eq_some_iff.trans eq_comm

end

section

variable {p : α → Bool} {word marks xs : List α}

theorem eq_nil_of_last (hlast : ∀ x ∈ xs.getLast?, p x = false) (hall : ∀ x ∈ xs, p x = true) :
    xs = [] := by
  by_contra hne
  have hfalse := hlast _ (List.getLast?_eq_getLast_of_ne_nil hne)
  rw [hall _ (List.getLast_mem hne)] at hfalse
  cases hfalse

/-- **A text that starts with a word and marks** still does without the marks at its end, or only
the word is left of it. -/
theorem prefix_dropEndWhile (hword : ∀ x ∈ word.getLast?, p x = false)
    (hmarks : ∀ x ∈ marks, p x = true) (h : word ++ marks <+: xs) :
    word ++ marks <+: dropEndWhile p xs ∨ dropEndWhile p xs = word := by
  obtain ⟨post, hpost, hall⟩ := dropEndWhile_append p xs
  have hlast := dropEndWhile_last p xs
  generalize dropEndWhile p xs = kept at hpost hlast ⊢
  subst hpost
  refine (List.prefix_or_prefix_of_prefix h (List.prefix_append kept post)).imp_right ?_
  rintro ⟨rest, hrest⟩
  -- What is kept ends inside the word or inside the marks.
  obtain ⟨more, rfl, rfl⟩ | ⟨more, rfl, rfl⟩ := List.append_eq_append_iff.1 hrest
  · rw [List.append_assoc, List.prefix_append_right_inj] at h
    have hmore : more = [] := by
      refine eq_nil_of_last (p := p) (fun x hx => hword x ?_) fun x hx => ?_
      · exact List.mem_getLast?_append_of_mem_getLast? hx
      · exact hall x (h.subset (List.mem_append_left _ hx))
    rw [hmore, List.append_nil]
  · have hmore : more = [] := by
      refine eq_nil_of_last (p := p) (fun x hx => hlast x ?_) fun x hx => ?_
      · exact List.mem_getLast?_append_of_mem_getLast? hx
      · exact hmarks x (List.mem_append_left _ hx)
    rw [hmore, List.append_nil]

end

end Mailroom.Text
