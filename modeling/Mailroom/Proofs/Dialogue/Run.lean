import Mathlib.Data.List.Induction
import Mailroom.Dialogue.Basic
/-!
  Mailroom.Proofs.Dialogue.Run
  ────────────────────────────────
  **RUNS OF A DIALOGUE, AND WHAT HOLDS ALL ALONG THEM.**

  A world need not be a function: a `Law` says which answers it may give in a
  state and in which state that leaves it.  A run is then a choice of answers.

      Reaches law d s tr d' s'  — some run leads from `d` in `s` over the events
                                  `tr` to `d'` in `s'`
      Keeps law I Q d tr s      — on every run of `d`, `I` holds before each
                                  question and at the end, and `Q` at the end
      Obeyed rule tr            — each question was one that a rule allows after
                                  the events before it

  `Keeps` is proved along the program, by `Keeps.bind` at each step, and
  `Keeps.reaches` gives what it says about every moment of every run.  What every
  allowed step of a world preserves is then kept as well, by `Keeps.along`.
-/
namespace Mailroom

/-- A question and the answer that it got. -/
abbrev Event : Type := (c : Command) × c.Answer

/-- Which answers a world may give to a question in a state, and the states after
them. -/
abbrev Law (σ : Type) : Type := σ → (c : Command) → c.Answer → σ → Prop

namespace Dialogue

variable {α β σ : Type} {law : Law σ} {I : List Event → σ → Prop}

theorem bind_bind {α β γ : Type} (d : Dialogue α) (f : α → Dialogue β) (k : β → Dialogue γ) :
    (d.bind f).bind k = d.bind fun a => (f a).bind k := by
  induction d with
  | pure a => rfl
  | ask c next ih => exact congrArg (ask c) (funext ih)

instance : LawfulMonad Dialogue := .mk' _
  (by
    intro α d
    show Dialogue.bind d Dialogue.pure = d
    induction d with
    | pure a => rfl
    | ask c next ih => exact congrArg (ask c) (funext ih))
  (fun _ _ => rfl)
  (fun d f k => bind_bind d f k)

/-! ## §1. Runs. -/

/-- Some run leads from a dialogue in a state over some events to another one. -/
inductive Reaches (law : Law σ) : Dialogue α → σ → List Event → Dialogue α → σ → Prop
  | here (d : Dialogue α) (s : σ) : Reaches law d s [] d s
  | step {c : Command} {next : c.Answer → Dialogue α} {s s' t : σ} {r : c.Answer}
      {tr : List Event} {d : Dialogue α} (lawful : law s c r s')
      (rest : Reaches law (next r) s' tr d t) :
      Reaches law (ask c next) s (⟨c, r⟩ :: tr) d t

/-- A whole run: it ends with a value. -/
def Ends (law : Law σ) (d : Dialogue α) (s : σ) (tr : List Event) (a : α) (t : σ) : Prop :=
  Reaches law d s tr (pure a) t

/-- The events of the dialogue with a world. -/
def trace (answer : (c : Command) → σ → c.Answer × σ) : Dialogue α → σ → List Event
  | pure _, _ => []
  | ask c next, s =>
    ⟨c, (answer c s).1⟩ :: (next (answer c s).1).trace answer (answer c s).2

/-- A world takes one of the runs that a law allows, if, seen through a view, each of
its answers keeps the law as long as `Inv` is true of the world. -/
theorem ends_view {τ : Type} {law : Law τ} {answer : (c : Command) → σ → c.Answer × σ}
    (view : σ → τ) (Inv : σ → Prop)
    (h : ∀ c s, Inv s →
      law (view s) c (answer c s).1 (view (answer c s).2) ∧ Inv (answer c s).2)
    (d : Dialogue α) {s : σ} (hs : Inv s) :
    Ends law d (view s) (d.trace answer s) (d.run answer s).1 (view (d.run answer s).2) := by
  induction d generalizing s with
  | pure a => exact .here _ (view s)
  -- The world is deterministic, so there is one step to take.
  | ask c next ih => exact .step (h c s hs).1 (ih (answer c s).1 (h c s hs).2)

/-- A world that obeys a law takes one of the runs that the law allows. -/
theorem ends_run {answer : (c : Command) → σ → c.Answer × σ}
    (h : ∀ c s, law s c (answer c s).1 (answer c s).2) (d : Dialogue α) (s : σ) :
    Ends law d s (d.trace answer s) (d.run answer s).1 (d.run answer s).2 :=
  ends_view id (fun _ => True) (fun c s _ => ⟨h c s, trivial⟩) d trivial

/-- The law of a world that has one answer to each question. -/
def lawOf (answer : (c : Command) → σ → c.Answer × σ) : Law σ :=
  fun s c r s' => answer c s = (r, s')

theorem ends_lawOf (answer : (c : Command) → σ → c.Answer × σ) (d : Dialogue α) (s : σ) :
    Ends (lawOf answer) d s (d.trace answer s) (d.run answer s).1 (d.run answer s).2 :=
  ends_run (fun _ _ => rfl) d s

/-- A run of the first of two parts is one of both. -/
theorem Reaches.bind {d d' : Dialogue α} {s s' : σ} {tr : List Event}
    (h : Reaches law d s tr d' s') (f : α → Dialogue β) :
    Reaches law (d.bind f) s tr (d'.bind f) s' := by
  induction h with
  | here d s => exact .here _ s
  | step lawful _ ih => exact .step lawful ih

/-- A run of two parts is in the first of them, or the first is done. -/
theorem Reaches.of_bind {d : Dialogue α} {f : α → Dialogue β} {d' : Dialogue β} {s s' : σ}
    {tr : List Event} (h : Reaches law (d.bind f) s tr d' s') :
    (∃ d₁, d' = d₁.bind f ∧ Reaches law d s tr d₁ s') ∨
      ∃ tr₁ tr₂ a s₁, tr = tr₁ ++ tr₂ ∧ Ends law d s tr₁ a s₁ ∧ Reaches law (f a) s₁ tr₂ d' s' := by
  induction d generalizing s tr with
  | pure a => exact .inr ⟨[], tr, a, s, rfl, .here _ s, h⟩
  | ask c next ih =>
    cases h with
    | here => exact .inl ⟨_, rfl, .here _ _⟩
    | @step _ _ _ s₁ _ r tr d lawful rest =>
      -- The first question is answered; the rest of the run is split by induction.
      rcases ih r rest with ⟨d₁, hd₁, h₁⟩ | ⟨tr₁, tr₂, a, s₂, rfl, h₁, h₂⟩
      · exact .inl ⟨d₁, hd₁, .step lawful h₁⟩
      · exact .inr ⟨_, tr₂, a, s₂, rfl, .step lawful h₁, h₂⟩

/-- A whole run of two parts is a whole run of each. -/
theorem Ends.of_bind {d : Dialogue α} {f : α → Dialogue β} {b : β} {s s' : σ} {tr : List Event}
    (h : Ends law (d.bind f) s tr b s') :
    ∃ tr₁ tr₂ a s₁, tr = tr₁ ++ tr₂ ∧ Ends law d s tr₁ a s₁ ∧ Ends law (f a) s₁ tr₂ b s' := by
  rcases Reaches.of_bind h with ⟨d₁, hd₁, h₁⟩ | hdone
  · -- A first part that ends the whole is done itself, and nothing follows it.
    cases d₁ with
    | pure a =>
      have hb : pure b = f a := hd₁
      exact ⟨tr, [], a, s', by simp, h₁, hb ▸ .here _ s'⟩
    | ask c next => cases hd₁
  · exact hdone

/-- A finished dialogue has the run of no events only. -/
theorem Ends.of_pure {a b : α} {s s' : σ} {tr : List Event}
    (h : Ends law (.pure a) s tr b s') : tr = [] ∧ a = b ∧ s = s' := by
  cases h
  exact ⟨rfl, rfl, rfl⟩

/-- `I` holds before each question and at the end of every run of a dialogue that
goes on from the events `tr`, and `Q` holds at the end. -/
def Keeps (law : Law σ) (I : List Event → σ → Prop) (Q : α → List Event → σ → Prop) :
    Dialogue α → List Event → σ → Prop
  | pure a, tr, s => I tr s ∧ Q a tr s
  | ask c next, tr, s =>
    I tr s ∧ ∀ r s', law s c r s' → (next r).Keeps law I Q (tr ++ [⟨c, r⟩]) s'

variable {Q : α → List Event → σ → Prop} {R : β → List Event → σ → Prop}

theorem Keeps.now {d : Dialogue α} {tr : List Event} {s : σ} (h : d.Keeps law I Q tr s) :
    I tr s := by
  cases d with
  | pure a => exact h.1
  | ask c next => exact h.1

theorem Keeps.mono {Q' : α → List Event → σ → Prop} {d : Dialogue α} {tr : List Event} {s : σ}
    (h : d.Keeps law I Q tr s) (hQ : ∀ a tr s, I tr s → Q a tr s → Q' a tr s) :
    d.Keeps law I Q' tr s := by
  induction d generalizing tr s with
  | pure a => exact ⟨h.1, hQ a tr s h.1 h.2⟩
  | ask c next ih => exact ⟨h.1, fun r s' hr => ih r (h.2 r s' hr)⟩

/-- What is kept may be said with less. -/
theorem Keeps.weaken {I' : List Event → σ → Prop} {d : Dialogue α} {tr : List Event} {s : σ}
    (h : d.Keeps law I Q tr s) (hI : ∀ tr s, I tr s → I' tr s) : d.Keeps law I' Q tr s := by
  induction d generalizing tr s with
  | pure a => exact ⟨hI tr s h.1, h.2⟩
  | ask c next ih => exact ⟨hI tr s h.1, fun r s' hr => ih r (h.2 r s' hr)⟩

/-- A dialogue may be gone through in two parts. -/
theorem Keeps.bind {d : Dialogue α} {f : α → Dialogue β} {tr : List Event} {s : σ}
    (h : d.Keeps law I (fun a => (f a).Keeps law I R) tr s) : (d.bind f).Keeps law I R tr s := by
  induction d generalizing tr s with
  | pure a => exact h.2
  | ask c next ih => exact ⟨h.1, fun r s' hr => ih r (h.2 r s' hr)⟩

/-- **What is kept holds at every moment of every run.** -/
theorem Keeps.reaches {d d' : Dialogue α} {tr tr' : List Event} {s s' : σ}
    (h : d.Keeps law I Q tr s) (hr : Reaches law d s tr' d' s') :
    d'.Keeps law I Q (tr ++ tr') s' := by
  induction hr generalizing tr with
  | here d s => simpa using h
  | step lawful rest ih => simpa using ih (h.2 _ _ lawful)

/-- What is kept at the end of a whole run. -/
theorem Keeps.ends {d : Dialogue α} {tr tr' : List Event} {s s' : σ} {a : α}
    (h : d.Keeps law I Q tr s) (hr : Ends law d s tr' a s') : Q a (tr ++ tr') s' :=
  (h.reaches hr).2

/-! ## §3. What may be asked. -/

end Dialogue

/-- Which questions may be asked after some events. -/
abbrev Rule : Type := List Event → Command → Prop

/-- Each question was one that the rule allows after the events before it. -/
def Obeyed (rule : Rule) (tr : List Event) : Prop :=
  ∀ before ev after, tr = before ++ ev :: after → rule before ev.1

theorem Obeyed.nil (rule : Rule) : Obeyed rule [] := by
  intro before ev after h
  simp at h

theorem Obeyed.concat {rule : Rule} {tr : List Event} {c : Command} (h : Obeyed rule tr)
    (hc : rule tr c) (r : c.Answer) : Obeyed rule (tr ++ [⟨c, r⟩]) := by
  intro before ev after heq
  -- The event is the last one, or it is one of those before.
  rcases List.eq_nil_or_concat after with rfl | ⟨after, last, rfl⟩
  · obtain ⟨rfl, hev⟩ := List.append_inj' heq rfl
    cases hev
    exact hc
  · have hlast : tr ++ [⟨c, r⟩] = (before ++ ev :: after) ++ [last] := by simp [heq]
    exact h before ev after (List.append_inj' hlast rfl).1

theorem obeyed_concat {rule : Rule} {tr : List Event} {ev : Event} :
    Obeyed rule (tr ++ [ev]) ↔ Obeyed rule tr ∧ rule tr ev.1 := by
  constructor
  · intro h
    refine ⟨fun before x after heq => h before x (after ++ [ev]) (by simp [heq]), ?_⟩
    exact h tr ev [] rfl
  · intro h
    exact h.1.concat h.2 ev.2

/-- What a rule forbids to ask twice is asked once at most. -/
theorem Obeyed.unique {rule : Rule} {K : Command → Prop}
    (honce : ∀ tr c, rule tr c → K c → ∀ ev ∈ tr, ¬ K ev.1) {tr : List Event}
    (h : Obeyed rule tr) {x y : Event} (hx : x ∈ tr) (hy : y ∈ tr) (hxK : K x.1) (hyK : K y.1) :
    x = y := by
  induction tr using List.reverseRecOn with
  | nil => cases hx
  | append_singleton tr last ih =>
    obtain ⟨htr, hlast⟩ := obeyed_concat.1 h
    -- Of two events of the kind, the last one would be forbidden.
    rcases List.mem_append.1 hx with hx' | hx' <;> rcases List.mem_append.1 hy with hy' | hy'
    · exact ih htr hx' hy'
    · rw [List.mem_singleton.1 hy'] at hyK
      exact absurd hxK (honce tr last.1 hlast hyK x hx')
    · rw [List.mem_singleton.1 hx'] at hxK
      exact absurd hyK (honce tr last.1 hlast hxK y hy')
    · rw [List.mem_singleton.1 hx', List.mem_singleton.1 hy']

namespace Dialogue

variable {α σ : Type} {law : Law σ} {rule : Rule} {Q : α → List Event → σ → Prop}

/-- **What every allowed step preserves is kept** by a dialogue that obeys the rule. -/
theorem Keeps.along {I : List Event → σ → Prop} {d : Dialogue α} {tr : List Event} {s : σ}
    (h : d.Keeps law (fun tr _ => Obeyed rule tr) Q tr s) (hI : I tr s)
    (hstep : ∀ tr s c r s', rule tr c → law s c r s' → I tr s → I (tr ++ [⟨c, r⟩]) s') :
    d.Keeps law I (fun a tr s => Obeyed rule tr ∧ Q a tr s) tr s := by
  induction d generalizing tr s with
  | pure a => exact ⟨hI, h⟩
  | ask c next ih =>
    refine ⟨hI, fun r s' hr => ?_⟩
    have hnext := h.2 r s' hr
    have hc : rule tr c := hnext.now tr ⟨c, r⟩ [] rfl
    exact ih r hnext (hstep tr s c r s' hc hr hI)

end Dialogue

end Mailroom
