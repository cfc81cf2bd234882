import Mailroom.Failure
import Mailroom.Proofs.Dialogue.Run
/-!
  Mailroom.Proofs.Dialogue.Program
  ────────────────────────────────
  **RUNS OF PROGRAMS THAT MAY FAIL.**

  A run of a program in parts is a run of each part, up to the first that fails.  What a
  run of the whole says about its parts is read off by one lemma for each kind of part: a
  program, a question, a dialogue without failures, a computation.
-/
namespace Mailroom

variable {σ α β : Type} {law : Law σ} {s s' t : σ} {tr : List Event}

/-! ## §1. Two parts. -/

theorem Program.run_bind (prog : Program α) (f : α → Program β) :
    (prog >>= f).run = prog.run.bind fun x => match x with
      | .ok a => (f a).run
      | .error err => .pure (.error err) := by
  show Dialogue.bind _ _ = _
  congr 1
  funext x
  rcases x with _ | _ <;> rfl

/-- A run of a program in two parts: it is in the first, the first failed, or the
first is done. -/
theorem reaches_program_bind {prog : Program α} {f : α → Program β}
    {d : Dialogue (Except Failure β)} (h : Dialogue.Reaches law (prog >>= f).run s tr d s') :
    (∃ d₁, Dialogue.Reaches law prog.run s tr d₁ s') ∨
      ∃ tr₁ tr₂ a s₁, tr = tr₁ ++ tr₂ ∧ Dialogue.Ends law prog.run s tr₁ (.ok a) s₁ ∧
        Dialogue.Reaches law (f a).run s₁ tr₂ d s' := by
  rw [Program.run_bind] at h
  rcases Dialogue.Reaches.of_bind h with ⟨d₁, -, h₁⟩ | ⟨tr₁, tr₂, x, s₁, rfl, h₁, h₂⟩
  · exact .inl ⟨d₁, h₁⟩
  · rcases x with err | a
    · -- A program that failed asks nothing more.
      cases h₂
      exact .inl ⟨_, by rw [List.append_nil]; exact h₁⟩
    · exact .inr ⟨tr₁, tr₂, a, s₁, rfl, h₁, h₂⟩

theorem ends_program_bind {prog : Program α} {f : α → Program β} {x : Except Failure β}
    (h : Dialogue.Ends law (prog >>= f).run s tr x t) :
    (∃ err, x = .error err ∧ Dialogue.Ends law prog.run s tr (.error err) t) ∨
      ∃ tr₁ tr₂ a s₁, tr = tr₁ ++ tr₂ ∧ Dialogue.Ends law prog.run s tr₁ (.ok a) s₁ ∧
        Dialogue.Ends law (f a).run s₁ tr₂ x t := by
  rw [Program.run_bind] at h
  obtain ⟨tr₁, tr₂, y, s₁, rfl, h₁, h₂⟩ := Dialogue.Ends.of_bind h
  rcases y with err | a
  · obtain ⟨rfl, rfl, rfl⟩ := Dialogue.Ends.of_pure h₂
    exact .inl ⟨err, rfl, by simpa using h₁⟩
  · exact .inr ⟨tr₁, tr₂, a, s₁, rfl, h₁, h₂⟩

/-! ## §2. Parts that do not fail. -/

/-- A run that begins with a question begins with its answer. -/
theorem ends_ask_bind {c : Command} {f : c.Answer → Program β} {x : Except Failure β}
    (h : Dialogue.Ends law (Program.ask c >>= f).run s tr x t) :
    ∃ r s' rest, tr = ⟨c, r⟩ :: rest ∧ law s c r s' ∧ Dialogue.Ends law (f r).run s' rest x t := by
  change Dialogue.Reaches law (.ask c fun r => (f r).run) s tr (.pure x) t at h
  cases h with
  | step lawful rest => exact ⟨_, _, _, rfl, lawful, rest⟩

/-- A dialogue without failures is held to its end. -/
theorem ends_lift_bind {d : Dialogue α} {f : α → Program β} {x : Except Failure β}
    (h : Dialogue.Ends law ((ExceptT.lift d : Program α) >>= f).run s tr x t) :
    ∃ tr₁ tr₂ a s₁, tr = tr₁ ++ tr₂ ∧ Dialogue.Ends law d s tr₁ a s₁ ∧
      Dialogue.Ends law (f a).run s₁ tr₂ x t := by
  have hbind : ((ExceptT.lift d : Program α) >>= f).run = d.bind fun a => (f a).run :=
    Dialogue.bind_bind d _ _
  rw [hbind] at h
  exact Dialogue.Ends.of_bind h

/-- A computation asks nothing. -/
theorem ends_ofExcept {y x : Except Failure α}
    (h : Dialogue.Ends law (Program.ofExcept y).run s tr x t) : tr = [] ∧ y = x ∧ s = t := by
  cases y <;> exact Dialogue.Ends.of_pure h

end Mailroom
