import Mathlib.Data.List.Infix
import Mailroom.Text.Replace
/-!
  Mailroom.Proofs.Text.Replace
  ────────────────────────────────
  **WHAT REPLACING CHANGES.**

  A text is read from the left: an occurrence at its front is replaced and passed over, any
  other element stays.  Where a word gives way to a shorter one, the text gets shorter
  unless the word does not occur in it.

      replaceAll_occurrence, replaceAll_kept — one step from the left
      replaceAll_eq_self_iff                 — what is left as it is
-/
namespace Mailroom.Text

variable {α : Type} [BEq α] {old new xs rest : List α} {x : α}

/-! ## §1. One step. -/

theorem replaceFrom_append (pre rest : List α) :
    replaceFrom old new pre.length (pre ++ rest) = replaceFrom old new 0 rest := by
  induction pre with
  | nil => rfl
  | cons x pre ih => rw [List.length_cons, List.cons_append, replaceFrom, ih]

variable [LawfulBEq α]

/-- An occurrence at the front is replaced. -/
theorem replaceAll_occurrence (h : old ≠ []) :
    replaceAll old new (old ++ rest) = new ++ replaceAll old new rest := by
  obtain ⟨x, pre, rfl⟩ := List.exists_cons_of_ne_nil h
  have hfront : (!(x :: pre).isEmpty && (x :: pre).isPrefixOf (x :: (pre ++ rest))) = true := by
    rw [← List.cons_append, Bool.and_eq_true, List.isPrefixOf_iff_prefix]
    exact ⟨rfl, List.prefix_append _ _⟩
  unfold replaceAll
  rw [List.cons_append, replaceFrom, if_pos hfront]
  exact congrArg _ (replaceFrom_append pre rest)

/-- An element at which nothing is replaced stays. -/
theorem replaceAll_kept (h : ¬ old <+: x :: xs) :
    replaceAll old new (x :: xs) = x :: replaceAll old new xs := by
  unfold replaceAll
  rw [replaceFrom, if_neg]
  rw [Bool.and_eq_true, List.isPrefixOf_iff_prefix]
  exact fun hold => h hold.2

/-! ## §2. What is left as it is. -/

/-- **Replacing by a shorter word makes a text shorter, or the word does not occur.**
The induction is on the length, since an occurrence is passed over as a whole. -/
theorem length_replaceAll (hnew : new.length < old.length) (xs : List α) :
    (¬ old <:+: xs ∧ replaceAll old new xs = xs) ∨
      old <:+: xs ∧ (replaceAll old new xs).length < xs.length := by
  have hne : old ≠ [] := by
    rintro rfl
    exact absurd hnew (Nat.not_lt_zero _)
  match xs with
  | [] => exact .inl ⟨fun h => hne (List.infix_nil.1 h), rfl⟩
  | x :: xs =>
    by_cases hold : old <+: x :: xs
    · obtain ⟨rest, hrest⟩ := hold
      have hshorter : rest.length < (x :: xs).length := by
        rw [← hrest, List.length_append]
        omega
      refine .inr ⟨⟨[], rest, hrest⟩, ?_⟩
      rw [← hrest, replaceAll_occurrence hne, List.length_append, List.length_append]
      rcases length_replaceAll hnew rest with ⟨-, heq⟩ | ⟨-, hlt⟩
      · rw [heq]
        omega
      · omega
    · rw [replaceAll_kept hold, List.infix_cons_iff]
      rcases length_replaceAll hnew xs with ⟨hnone, heq⟩ | ⟨hsome, hlt⟩
      · exact .inl ⟨not_or.2 ⟨hold, hnone⟩, by rw [heq]⟩
      · exact .inr ⟨.inr hsome, Nat.succ_lt_succ hlt⟩
termination_by xs.length
decreasing_by
  · exact hshorter
  · exact Nat.lt_succ_self _

theorem length_replaceAll_le (hnew : new.length < old.length) (xs : List α) :
    (replaceAll old new xs).length ≤ xs.length := by
  rcases length_replaceAll hnew xs with ⟨-, heq⟩ | ⟨-, hlt⟩
  · exact (congrArg _ heq).le
  · exact hlt.le

/-- **A text is left as it is where the word does not occur.** -/
theorem replaceAll_eq_self_iff (hnew : new.length < old.length) :
    replaceAll old new xs = xs ↔ ¬ old <:+: xs := by
  rcases length_replaceAll hnew xs with ⟨hnone, heq⟩ | ⟨hsome, hlt⟩
  · exact iff_of_true heq hnone
  · refine iff_of_false (fun heq => ?_) (not_not.2 hsome)
    rw [heq] at hlt
    exact lt_irrefl _ hlt

/-- Of two words replaced one after the other, neither may occur. -/
theorem replaceAll_replaceAll_eq_self_iff {old' new' : List α} (hnew : new.length < old.length)
    (hnew' : new'.length < old'.length) :
    replaceAll old' new' (replaceAll old new xs) = xs ↔ ¬ old <:+: xs ∧ ¬ old' <:+: xs := by
  rcases length_replaceAll hnew xs with ⟨hnone, heq⟩ | ⟨hsome, hlt⟩
  · rw [heq, replaceAll_eq_self_iff hnew', and_iff_right hnone]
  · refine iff_of_false (fun heq => ?_) (fun h => h.1 hsome)
    have hle := length_replaceAll_le hnew' (replaceAll old new xs)
    rw [heq] at hle
    omega

end Mailroom.Text
