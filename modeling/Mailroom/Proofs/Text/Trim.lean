import Mathlib.Data.List.DropRight
import Mailroom.Text.Blank
/-!
  Mailroom.Proofs.Text.Trim
  ────────────────────────────────
  **WHAT TRIMMING TAKES AND WHAT IT LEAVES.**

  `trimWhile p` splits a list into three parts: a run of elements that satisfy `p`,
  what is left, and another such run.  What is left is `Trimmed`, and a list that is
  trimmed is left as it is.
-/
namespace Mailroom.Text

variable {α : Type} {p : α → Bool} {xs ys pre post : List α}

/-! ## §1. Trimmed lists. -/

/-- Neither the first nor the last element satisfies `p`. -/
structure Trimmed (p : α → Bool) (xs : List α) : Prop where
  first : ∀ x ∈ xs.head?, p x = false
  last : ∀ x ∈ xs.getLast?, p x = false

theorem dropWhile_first (p : α → Bool) (xs : List α) :
    ∀ x ∈ (xs.dropWhile p).head?, p x = false := by
  intro x hx
  have h := List.head?_dropWhile_not p xs
  rw [Option.mem_def.1 hx] at h
  exact h

theorem dropEndWhile_last (p : α → Bool) (xs : List α) :
    ∀ x ∈ (dropEndWhile p xs).getLast?, p x = false := by
  unfold dropEndWhile
  rw [List.getLast?_reverse]
  exact dropWhile_first p xs.reverse

/-- The end of a list that is taken away, after what is left. -/
theorem dropEndWhile_append (p : α → Bool) (xs : List α) :
    ∃ post, xs = dropEndWhile p xs ++ post ∧ ∀ x ∈ post, p x = true :=
  ⟨xs.rtakeWhile p, List.rdropWhile_append_rtakeWhile.symm, fun _ => List.mem_rtakeWhile_imp⟩

theorem trimmed_trimWhile (p : α → Bool) (xs : List α) : Trimmed p (trimWhile p xs) where
  first x hx := by
    -- What is left has the first element of the list before its end was taken away.
    obtain ⟨post, hpost, -⟩ := dropEndWhile_append p (xs.dropWhile p)
    refine dropWhile_first p xs x ?_
    rw [hpost]
    exact List.mem_head?_append_of_mem_head? hx
  last := dropEndWhile_last p _

theorem Trimmed.trimWhile_eq (h : Trimmed p xs) : trimWhile p xs = xs := by
  have hfirst : xs.dropWhile p = xs := by
    cases xs with
    | nil => rfl
    | cons x xs => exact List.dropWhile_cons_of_neg (by simp [h.first x rfl])
  unfold trimWhile
  rw [hfirst]
  refine List.rdropWhile_eq_self_iff.2 fun hne => ?_
  simp [h.last _ (List.getLast?_eq_getLast_of_ne_nil hne)]

/-! ## §2. The parts of a list. -/

/-- A list is what is left of it between two runs that are taken away. -/
theorem trimWhile_append (p : α → Bool) (xs : List α) :
    ∃ pre post, xs = pre ++ trimWhile p xs ++ post ∧ (∀ x ∈ pre, p x = true) ∧
      ∀ x ∈ post, p x = true := by
  obtain ⟨post, hpost, hall⟩ := dropEndWhile_append p (xs.dropWhile p)
  refine ⟨xs.takeWhile p, post, ?_, fun _ => List.mem_takeWhile_imp, hall⟩
  rw [List.append_assoc]
  exact (List.takeWhile_append_dropWhile (p := p)).symm.trans (congrArg _ hpost)

theorem trimWhile_infix (p : α → Bool) (xs : List α) : trimWhile p xs <:+: xs := by
  obtain ⟨pre, post, hxs, -, -⟩ := trimWhile_append p xs
  exact ⟨pre, post, hxs.symm⟩

/-- What is taken away does not matter. -/
theorem trimWhile_append_left (h : ∀ x ∈ pre, p x = true) :
    trimWhile p (pre ++ xs) = trimWhile p xs := by
  unfold trimWhile
  rw [List.dropWhile_append_of_pos h]

theorem trimWhile_append_right (h : ∀ x ∈ post, p x = true) :
    trimWhile p (xs ++ post) = trimWhile p xs := by
  have hend : ∀ zs : List α, dropEndWhile p (zs ++ post) = dropEndWhile p zs := by
    intro zs
    unfold dropEndWhile
    rw [List.reverse_append, List.dropWhile_append_of_pos fun x hx => h x (List.mem_reverse.1 hx)]
  unfold trimWhile
  rw [List.dropWhile_append]
  split
  next hnil =>
    rw [List.isEmpty_iff.1 hnil, List.dropWhile_eq_nil_iff.2 h]
  next => exact hend _

/-- Around an element that stays, both ends are trimmed by themselves. -/
theorem trimWhile_around {x : α} (hx : p x = false) :
    trimWhile p (xs ++ x :: ys) = xs.dropWhile p ++ x :: dropEndWhile p ys := by
  have hend : ∀ zs : List α, dropEndWhile p (zs ++ x :: ys) = zs ++ x :: dropEndWhile p ys := by
    intro zs
    unfold dropEndWhile
    rw [List.reverse_append, List.reverse_cons, List.append_assoc, List.dropWhile_append]
    split
    next hnil =>
      rw [List.isEmpty_iff.1 hnil, List.singleton_append,
        List.dropWhile_cons_of_neg (by simp [hx])]
      simp
    next => simp
  have hstart : (xs ++ x :: ys).dropWhile p = xs.dropWhile p ++ x :: ys := by
    rw [List.dropWhile_append]
    split
    next hnil =>
      rw [List.isEmpty_iff.1 hnil, List.dropWhile_cons_of_neg (by simp [hx])]
      rfl
    next => rfl
  unfold trimWhile
  rw [hstart, hend]

/-! ## §3. Texts. -/

theorem isTrimmed_of_isBlank {c : Char} (h : isBlank c = true) : isTrimmed c = true := by
  rw [isTrimmed, h, Bool.true_or]

theorem isBlank_of_not_isTrimmed {c : Char} (h : isTrimmed c = false) : isBlank c = false := by
  rw [isTrimmed, Bool.or_eq_false_iff] at h
  exact h.1

end Mailroom.Text
