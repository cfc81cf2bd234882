import Mailroom.Web.Server
import Mailroom.Simulation.World
/-!
  Mailroom.Proofs.Web.Keyless
  ────────────────────────────────
  **WITHOUT THE KEY, NOTHING IS DONE AND NOTHING IS SEEN.**

  A request that does not show the key of the server is answered without a question to
  the outside world, and the answer depends on the request and on the key only: not on the
  other settings, not on any mailbox, and not on what is behind the agents' entrance.

      check_denied     — a key that is not the server's is not allowed
      routeAt?_agents  — what leads to the agents' entrance is behind the guard
      keyless_answered — one answer for all settings with the key and all worlds
-/
namespace Mailroom.Web

open Mailroom.Config

section

variable {s : Settings} {r : Request} {key : String} {next : Handler}
  {x : Except Fault Response}

/-! ## §1. The guard. -/

/-- **Who does not show the key is not allowed.** -/
theorem check_denied (hkey : key ≠ "") (hr : r.key? ≠ some key) :
    check r (some key) ≠ .ok .allowed := by
  have hexpected : (some key).filter (· != "") = some key := by simp [hkey]
  unfold check
  rw [hexpected]
  cases hshown : r.key? with
  | none => nofun
  | some shown =>
    have hne : (shown == key) = false := beq_false_of_ne fun h => hr (hshown.trans (h ▸ rfl))
    dsimp only
    unfold compareKeys
    split
    · simp [hne]
    · nofun

/-- What is answered to who is not allowed: a key that cannot be compared is a fault. -/
def refusal : Except KeyFault Verdict → Except Fault Response
  | .error e => .error (.key e)
  | .ok _ => .ok forbidden

theorem guarded_denied (h : check r s.server.apiKey ≠ .ok .allowed) :
    (guarded s r next).run = .pure (refusal (check r s.server.apiKey)) := by
  unfold guarded
  split
  next e he => rw [he]; rfl
  next he => rw [he]; rfl
  next he => exact absurd he h

/-! ## §2. Routes. -/

/-- The agents' entrance is found only on paths that start with its own. -/
theorem routeAt?_agents {path : String} (h : routeAt? path = some .agents) :
    agentsPath.toList.isPrefixOf path.toList = true := by
  unfold routeAt? at h
  split at h
  · cases h
  split at h
  · cases h
  split at h
  · cases h
  split at h
  next hmounted =>
    rw [List.isPrefixOf_iff_prefix] at hmounted ⊢
    refine .trans ?_ hmounted
    rw [String.toList_append]
    exact List.prefix_append _ _
  · cases h

/-- A route other than the agents' entrance has one answer for who is not allowed, whatever
the other settings are. -/
theorem Route.handle_denied (lib : Library) (r : Request) (key : String)
    (hdenied : check r (some key) ≠ .ok .allowed) (route : Route) (hroute : route ≠ .agents) :
    ∃ x, ∀ s : Settings, s.server.apiKey = some key → (route.handle lib s r).run = .pure x := by
  cases route with
  | ping => exact ⟨_, fun _ _ => rfl⟩
  | page => exact ⟨_, fun _ _ => rfl⟩
  | classify =>
    refine ⟨refusal (check r (some key)), fun s hs => ?_⟩
    rw [← hs] at hdenied ⊢
    exact guarded_denied hdenied
  | agents => exact absurd rfl hroute

/-- Where the agents' entrance is not, there is one answer for who is not allowed. -/
theorem dispatch_denied (lib : Library) (r : Request) (key : String)
    (hdenied : check r (some key) ≠ .ok .allowed)
    (hpath : agentsPath.toList.isPrefixOf r.path.toList = false) :
    ∃ x, ∀ s : Settings, s.server.apiKey = some key → (dispatch lib s r).run = .pure x := by
  unfold dispatch
  cases hroute : routeAt? r.path with
  | none =>
    dsimp only
    split <;> exact ⟨_, fun _ _ => rfl⟩
  | some route =>
    dsimp only
    by_cases htakes : route.takes r.method = true
    · have hne : route ≠ .agents := by
        rintro rfl
        rw [routeAt?_agents hroute] at hpath
        cases hpath
      obtain ⟨x, hx⟩ := route.handle_denied lib r key hdenied hne
      exact ⟨x, fun s hs => by rw [if_pos htakes]; exact hx s hs⟩
    · exact ⟨_, fun s _ => by rw [if_neg htakes]; rfl⟩

/-! ## §3. Requests. -/

/-- A response that is there without a question stays so when its body is left out. -/
theorem headOnly_of_pure {h : Handler} (hx : h.run = .pure x) :
    ExceptT.run (do let response ← h; return response.headOnly r)
      = .pure (x.map (Response.headOnly r)) := by
  rw [ExceptT.run_bind, hx]
  cases x <;> rfl

/-- **Without the key, nothing is done and nothing is seen.**  A request that does not show
the key has one outcome, which it has under all settings with that key: it is there without
a question to the outside world, so all worlds stay as they are. -/
theorem keyless_answered (lib : Library) (key : String) (hkey : key ≠ "") (r : Request)
    (hr : r.key? ≠ some key) :
    ∃ outcome, ∀ s : Settings, s.server.apiKey = some key →
      (lib.handle s r).run = .pure outcome ∧
      ∀ {σ : Type} (answer : (c : Command) → σ → c.Answer × σ) (w : σ),
        (lib.handle s r).run.run answer w = (outcome, w) := by
  have hdenied := check_denied hkey hr
  have hone : ∃ x : Except Fault Response, ∀ s : Settings, s.server.apiKey = some key →
      (lib.handle s r).run = .pure (x.map (Response.headOnly r)) := by
    unfold Library.handle
    by_cases hpath : agentsPath.toList.isPrefixOf r.path.toList = true
    · refine ⟨refusal (check r (some key)), fun s hs => ?_⟩
      rw [← hs] at hdenied ⊢
      rw [if_pos hpath]
      exact headOnly_of_pure (guarded_denied hdenied)
    · obtain ⟨x, hx⟩ := dispatch_denied lib r key hdenied (Bool.eq_false_iff.2 hpath)
      refine ⟨x, fun s hs => ?_⟩
      rw [if_neg hpath]
      exact headOnly_of_pure (hx s hs)
  obtain ⟨x, hx⟩ := hone
  refine ⟨_, fun s hs => ⟨hx s hs, fun answer w => ?_⟩⟩
  rw [hx s hs]
  rfl

/-- A bearer token counts before a key in the query, so this caller of the agents' entrance
learns nothing: neither a server that has all keys does anything, nor one that has no other. -/
theorem keyless_answered_sample :
    let lib : Library := { agents := fun s _ => do
      let _ ← ExceptT.lift (Tools.run s .accounts)
      return { status := 200 } }
    let r : Request := { method := "POST", path := "/mcp/", query := "api_key=secret",
                         headers := [("Authorization", "Bearer guess")] }
    let s : Settings := { server := { apiKey := some "secret" } }
    let s' : Settings := { directory := { apiKey := some "d" }, classifier := { apiKey := some "c" },
                           server := { apiKey := some "secret" } }
    r.key? = some "guess" ∧ (lib.handle s r).run = (lib.handle s' r).run ∧
      ∀ w : Simulation.World, ((lib.handle s' r).run.run Simulation.World.answer w).2 = w := by
  intro lib r s s'
  have hkey : r.key? = some "guess" := by decide +kernel
  obtain ⟨outcome, h⟩ := keyless_answered lib "secret" (by decide) r (by rw [hkey]; decide)
  refine ⟨hkey, (h s rfl).1.trans (h s' rfl).1.symm, fun w => ?_⟩
  rw [(h s' rfl).2]

end

end Mailroom.Web
