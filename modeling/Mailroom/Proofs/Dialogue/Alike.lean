import Mailroom.Proofs.Dialogue.Run
/-!
  Mailroom.Proofs.Dialogue.Alike
  ────────────────────────────────
  **TWO DIALOGUES THAT COME TO THE SAME.**

  A view of a world leaves out what does not matter.  Two dialogues are `Alike` if,
  held with worlds of one view, they end with one value and in worlds of one view.  Two
  kinds of questions fit in:

      Plain — the view tells the answer and what it changes: asked on both sides
      Idle  — the view is not changed, whatever the answer: asked on any side
-/
namespace Mailroom.Dialogue

variable {α β σ μ : Type} {answer : (c : Command) → σ → c.Answer × σ} {view : σ → μ}

/-- A view tells the answer to a question, and the view after it. -/
def Plain (answer : (c : Command) → σ → c.Answer × σ) (view : σ → μ) (c : Command) : Prop :=
  ∀ s t, view s = view t →
    (answer c s).1 = (answer c t).1 ∧ view (answer c s).2 = view (answer c t).2

/-- A question does not change a view. -/
def Idle (answer : (c : Command) → σ → c.Answer × σ) (view : σ → μ) (c : Command) : Prop :=
  ∀ s, view (answer c s).2 = view s

/-- Held with worlds of one view, two dialogues end with one value in worlds of one
view. -/
def Alike (answer : (c : Command) → σ → c.Answer × σ) (view : σ → μ) (d d' : Dialogue α) :
    Prop :=
  ∀ s t, view s = view t →
    (d.run answer s).1 = (d'.run answer t).1 ∧
      view (d.run answer s).2 = view (d'.run answer t).2

theorem run_bind (d : Dialogue α) (f : α → Dialogue β) (s : σ) :
    (d.bind f).run answer s = (f (d.run answer s).1).run answer (d.run answer s).2 := by
  induction d generalizing s with
  | pure a => rfl
  | ask c next ih => exact ih _ _

namespace Alike

variable {d d' d'' : Dialogue α} {f f' : α → Dialogue β}

theorem pure (a : α) : Alike answer view (.pure a) (.pure a) := fun _ _ h => ⟨rfl, h⟩

theorem symm (h : Alike answer view d d') : Alike answer view d' d := by
  intro s t hst
  obtain ⟨hvalue, hview⟩ := h t s hst.symm
  exact ⟨hvalue.symm, hview.symm⟩

theorem trans (h : Alike answer view d d') (h' : Alike answer view d' d'') :
    Alike answer view d d'' := by
  intro s t hst
  obtain ⟨hvalue, hview⟩ := h s s rfl
  obtain ⟨hvalue', hview'⟩ := h' s t hst
  exact ⟨hvalue.trans hvalue', hview.trans hview'⟩

/-- What follows has to be alike for the values that there can be. -/
theorem bind (h : Alike answer view d d')
    (hf : ∀ a s, (d.run answer s).1 = a → Alike answer view (f a) (f' a)) :
    Alike answer view (d.bind f) (d'.bind f') := by
  intro s t hst
  obtain ⟨hvalue, hview⟩ := h s t hst
  rw [run_bind, run_bind, ← hvalue]
  exact hf _ s rfl _ _ hview

/-- A question asked on both sides. -/
theorem ask {c : Command} {next next' : c.Answer → Dialogue α} (hc : Plain answer view c)
    (h : ∀ r, Alike answer view (next r) (next' r)) :
    Alike answer view (.ask c next) (.ask c next') := by
  intro s t hst
  obtain ⟨hvalue, hview⟩ := hc s t hst
  show ((next (answer c s).1).run answer (answer c s).2).1 = _ ∧
    view ((next (answer c s).1).run answer (answer c s).2).2 = _
  rw [hvalue]
  exact h (answer c t).1 _ _ hview

/-- A question asked on one side only. -/
theorem idle {c : Command} {next : c.Answer → Dialogue α} (hc : Idle answer view c)
    (h : ∀ r, Alike answer view (next r) d') : Alike answer view (.ask c next) d' :=
  fun s t hst => h _ _ t ((hc s).trans hst)

/-- A part on one side only, which has one value and does not change the view. -/
theorem drop {a : α} {d' : Dialogue β}
    (h : ∀ s, (d.run answer s).1 = a ∧ view (d.run answer s).2 = view s)
    (hf : Alike answer view (f a) d') : Alike answer view (d.bind f) d' := by
  intro s t hst
  rw [run_bind, (h s).1]
  exact hf _ t ((h s).2.trans hst)

/-- **A dialogue that asks plain questions only is like itself.** -/
theorem of_keeps {rule : Rule} {P : List Event → Prop} {Q : α → List Event → Unit → Prop}
    {tr : List Event}
    (h : d.Keeps (fun _ _ _ _ => True) (fun tr _ => Obeyed rule tr) Q tr ()) (htr : P tr)
    (hrule : ∀ tr c r, rule tr c → P tr → Plain answer view c ∧ P (tr ++ [⟨c, r⟩])) :
    Alike answer view d d := by
  induction d generalizing tr with
  | pure a => exact .pure a
  | ask c next ih =>
    intro s t hst
    have hnext := fun r => h.2 r () trivial
    have hc := hrule tr c (answer c s).1 ((hnext _).now tr ⟨c, (answer c s).1⟩ [] rfl) htr
    exact ask hc.1 (fun r => ih r (hnext r)
      (hrule tr c r ((hnext r).now tr ⟨c, r⟩ [] rfl) htr).2) s t hst

end Alike

end Mailroom.Dialogue
