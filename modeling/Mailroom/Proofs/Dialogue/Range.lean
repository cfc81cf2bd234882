import Mailroom.Failure
import Mailroom.Proofs.Dialogue.Run
/-!
  Mailroom.Proofs.Dialogue.Range
  ────────────────────────────────
  **WHICH QUESTIONS A DIALOGUE CAN ASK AT ALL.**

  `Poses K d` says that every question of `d` is of the kind `K`, whatever was answered
  before it.  It is proved along the program, without a world and without events, and
  then says about every run:

      Poses.reaches — each question of every run is of the kind
      Poses.keeps   — what every question of the kind preserves is kept
      Keeps.posed   — and it may be added to what is kept already
-/
namespace Mailroom

namespace Dialogue

variable {α β σ : Type} {law : Law σ} {K : Command → Prop} {tr : List Event} {s : σ}

/-- Whatever is answered, each question of a dialogue is of a kind. -/
def Poses (K : Command → Prop) : Dialogue α → Prop
  | pure _ => True
  | ask c next => K c ∧ ∀ r, (next r).Poses K

theorem Poses.bind {d : Dialogue α} {f : α → Dialogue β} (h : d.Poses K)
    (hf : ∀ a, (f a).Poses K) : (d.bind f).Poses K := by
  induction d with
  | pure a => exact hf a
  | ask c next ih => exact ⟨h.1, fun r => ih r (h.2 r)⟩

theorem Poses.mono {K' : Command → Prop} {d : Dialogue α} (h : d.Poses K)
    (hK : ∀ c, K c → K' c) : d.Poses K' := by
  induction d with
  | pure a => trivial
  | ask c next ih => exact ⟨hK c h.1, fun r => ih r (h.2 r)⟩

/-- Any question is of the kind that all are of. -/
theorem Poses.all (d : Dialogue α) : d.Poses fun _ => True := by
  induction d with
  | pure a => trivial
  | ask c next ih => exact ⟨trivial, ih⟩

/-- **On every run each question is of the kind**, and those to come are. -/
theorem Poses.reaches {d d' : Dialogue α} {s' : σ} (h : d.Poses K)
    (hrun : Reaches law d s tr d' s') : (∀ ev ∈ tr, K ev.1) ∧ d'.Poses K := by
  induction hrun with
  | here d s => exact ⟨nofun, h⟩
  | step lawful rest ih =>
    obtain ⟨hrest, hnext⟩ := ih (h.2 _)
    exact ⟨List.forall_mem_cons.2 ⟨h.1, hrest⟩, hnext⟩

/-- What every question of the kind preserves is kept by the whole dialogue. -/
theorem Poses.keeps {P : List Event → σ → Prop} {d : Dialogue α} (h : d.Poses K)
    (hstep : ∀ tr s c r s', K c → law s c r s' → P tr s → P (tr ++ [⟨c, r⟩]) s')
    (hP : P tr s) : d.Keeps law P (fun _ => P) tr s := by
  induction d generalizing tr s with
  | pure a => exact ⟨hP, hP⟩
  | ask c next ih =>
    exact ⟨hP, fun r s' hr => ih r (h.2 r) (hstep tr s c r s' h.1 hr hP)⟩

/-- What every question of the kind preserves may be added to what is kept. -/
theorem Keeps.posed_along {I P : List Event → σ → Prop} {Q : α → List Event → σ → Prop}
    {d : Dialogue α} (h : d.Keeps law I Q tr s) (hd : d.Poses K)
    (hstep : ∀ tr s c r s', K c → law s c r s' → P tr s → P (tr ++ [⟨c, r⟩]) s')
    (hP : P tr s) :
    d.Keeps law (fun tr s => I tr s ∧ P tr s) (fun a tr s => Q a tr s ∧ P tr s) tr s := by
  induction d generalizing tr s with
  | pure a => exact ⟨⟨h.1, hP⟩, h.2, hP⟩
  | ask c next ih =>
    exact ⟨⟨h.1, hP⟩,
      fun r s' hr => ih r (h.2 r s' hr) (hd.2 r) (hstep tr s c r s' hd.1 hr hP)⟩

/-- At the end stands as well what every question of the kind preserves. -/
theorem Keeps.posed {I P : List Event → σ → Prop} {Q : α → List Event → σ → Prop}
    {d : Dialogue α} (h : d.Keeps law I Q tr s) (hd : d.Poses K)
    (hstep : ∀ tr s c r s', K c → law s c r s' → P tr s → P (tr ++ [⟨c, r⟩]) s')
    (hP : P tr s) : d.Keeps law I (fun a tr s => Q a tr s ∧ P tr s) tr s :=
  (h.posed_along hd hstep hP).weaken fun _ _ h => h.1

end Dialogue

/-! ## Programs that may fail. -/

section Programs

variable {ε α β : Type} {K : Command → Prop}

theorem poses_except_bind {prog : ExceptT ε Dialogue α} {f : α → ExceptT ε Dialogue β}
    (h : prog.run.Poses K) (hf : ∀ a, (f a).run.Poses K) : (prog >>= f).run.Poses K := by
  refine Dialogue.Poses.bind (d := prog.run) h fun x => ?_
  rcases x with e | a
  · trivial
  · exact hf a

theorem poses_lift {d : Dialogue α} (h : d.Poses K) :
    (ExceptT.lift d : ExceptT ε Dialogue α).run.Poses K :=
  h.bind fun _ => trivial

theorem poses_ask {c : Command} (h : K c) : (Program.ask c).run.Poses K := ⟨h, fun _ => trivial⟩

theorem poses_ofExcept {x : Except Failure α} : (Program.ofExcept x).run.Poses K := by
  cases x <;> trivial

theorem poses_ofMisuse {x : Except Json.Misuse α} : (Program.ofMisuse x).run.Poses K := by
  cases x <;> trivial

end Programs

end Mailroom
