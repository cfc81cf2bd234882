import Mailroom.Proofs.Dialogue.Program
import Mailroom.Proofs.Scan.Abiding
/-!
  Mailroom.Proofs.Scan.Rounds
  ────────────────────────────────
  **A SCAN OF ALL MAILBOXES IS A ROUND OF VISITS.**

  A scan opens with the listing of the directory, from which it chooses its entries,
  and then visits their accounts one after the other.  Each `Visit` is a run of the
  scan of one account, from the state in which the one before it left the world:

      Rounds       — visits one after the other
      run_reaches  — every moment of a scan is in its opening or in its rounds
      run_ends     — a whole scan ends with a report on all visits, or with the failure
                     of the last one
-/
namespace Mailroom.Scan

open Mailroom.Imap Mailroom.Mail Mailroom.Reply

variable {σ : Type} {law : Law σ} {e : Engine} {s s' t : σ} {tr : List Event}

/-! ## §1. Visits. -/

/-- A visit of an account: the world before and after it, its events, and what is left
of the scan of the account. -/
structure Visit (σ : Type) where
  entry : Directory.Entry
  before : σ
  events : List Event
  rest : Dialogue Progress
  after : σ

/-- Visits of accounts, one after the other. -/
inductive Rounds (law : Law σ) (e : Engine) : σ → List (Visit σ) → σ → Prop
  | done (s : σ) : Rounds law e s [] s
  | visit {v : Visit σ} {vs : List (Visit σ)} {t : σ}
      (run : Dialogue.Reaches law (e.scanEntry v.entry) v.before v.events v.rest v.after)
      (later : Rounds law e v.after vs t) : Rounds law e v.before (v :: vs) t

/-- Each visit is a run of the scan of its account. -/
theorem Rounds.reaches {vs : List (Visit σ)} (h : Rounds law e s vs t) {v : Visit σ}
    (hv : v ∈ vs) :
    Dialogue.Reaches law (e.scanEntry v.entry) v.before v.events v.rest v.after := by
  induction h with
  | done s => cases hv
  | visit run _ ih =>
    rcases List.mem_cons.1 hv with rfl | hv
    · exact run
    · exact ih hv

/-- What a result says of a visit that went to its end: its outcomes and numbers, and
the failure that ended it early, if any. -/
def Visit.Reports (v : Visit σ) (r : AccountResult) : Prop :=
  ∃ pr, v.rest = .pure pr ∧ (∀ f, pr.failure = some f → f.endsAccount = true) ∧
    r.account = v.entry.email ∧ r.outcomes = pr.result.outcomes ∧
    r.matched = pr.result.matched ∧ r.unmatched = pr.result.unmatched ∧
    r.error = pr.failure.map Failure.message

/-- A visit that ended with a failure that does not end its account only. -/
def Visit.Breaks (v : Visit σ) (f : Failure) : Prop :=
  f.endsAccount = false ∧ ∃ pr, v.rest = .pure pr ∧ pr.failure = some f

/-- A visit to its end is reported on, or it breaks. -/
theorem close_eq {v : Visit σ} {pr : Progress}
    (h : Dialogue.Ends law (e.scanEntry v.entry) v.before v.events pr v.after)
    (hrest : v.rest = .pure pr) : match pr.close with
      | .ok r => v.Reports r
      | .error f => v.Breaks f := by
  have hreported := scanEntry_reports h
  unfold Progress.close
  cases hf : pr.failure with
  | none =>
    refine ⟨pr, hrest, fun f hf' => ?_, hreported.account, rfl, rfl, rfl, ?_⟩
    · rw [hf] at hf'
      cases hf'
    · rw [hf]
      exact hreported.error
  | some f =>
    by_cases hends : f.endsAccount = true
    · simp only [hends, if_true]
      refine ⟨pr, hrest, fun f' hf' => ?_, hreported.account, rfl, rfl, rfl, ?_⟩
      · rw [hf] at hf'
        cases hf'
        exact hends
      · rw [hf]
        rfl
    · simp only [hends]
      exact ⟨by simpa using hends, pr, hrest, hf⟩

/-! ## §2. All mailboxes. -/

/-- The first account is visited, and if its visit does not break the others follow. -/
theorem scanAll_cons (entry : Directory.Entry) (entries : List Directory.Entry) :
    (e.scanAll (entry :: entries)).run = (e.scanEntry entry).bind fun pr => match pr.close with
      | .ok r => (e.scanAll entries >>= fun rs => pure (r :: rs)).run
      | .error f => .pure (.error f) := by
  refine (ExceptT.run_bind_lift (e.scanEntry entry) _).trans ?_
  show Dialogue.bind _ _ = _
  congr 1
  funext pr
  cases pr.close <;> rfl

/-- Every moment of the scan of some accounts is in a round of visits. -/
theorem scanAll_reaches {entries : List Directory.Entry}
    {d : Dialogue (Except Failure (List AccountResult))}
    (h : Dialogue.Reaches law (e.scanAll entries).run s tr d s') :
    ∃ vs, Rounds law e s vs s' ∧ tr = vs.flatMap Visit.events ∧
      vs.map Visit.entry <+: entries := by
  induction entries generalizing s tr d with
  | nil =>
    cases h
    exact ⟨[], .done _, rfl, List.nil_prefix⟩
  | cons entry entries ih =>
    rw [scanAll_cons] at h
    rcases Dialogue.Reaches.of_bind h with ⟨d₁, -, h₁⟩ | ⟨tr₁, tr₂, pr, s₁, rfl, h₁, h₂⟩
    · exact ⟨[⟨entry, s, tr, d₁, s'⟩], .visit (v := ⟨entry, s, tr, d₁, s'⟩) h₁ (.done s'),
        by simp, entries, rfl⟩
    · -- The first visit is done; what follows is in the rounds of the others.
      have hfirst : ∀ {vs}, Rounds law e s₁ vs s' →
          Rounds law e s (⟨entry, s, tr₁, .pure pr, s₁⟩ :: vs) s' :=
        fun h => .visit (v := ⟨entry, s, tr₁, .pure pr, s₁⟩) h₁ h
      cases hc : pr.close with
      | error f =>
        rw [hc] at h₂
        cases h₂
        exact ⟨_, hfirst (.done _), by simp, entries, rfl⟩
      | ok r =>
        rw [hc] at h₂
        rcases reaches_program_bind h₂ with ⟨d₂, h₂⟩ | ⟨tr₃, tr₄, rs, s₂, rfl, h₂, h₃⟩
        · obtain ⟨vs, hvs, rfl, hle⟩ := ih h₂
          exact ⟨_, hfirst hvs, rfl, (List.prefix_append_right_inj [entry]).2 hle⟩
        · cases h₃
          obtain ⟨vs, hvs, rfl, hle⟩ := ih h₂
          exact ⟨_, hfirst hvs, by simp, (List.prefix_append_right_inj [entry]).2 hle⟩

/-- A whole scan of some accounts visits all and reports on each, or a visit breaks and
is the last one. -/
theorem scanAll_ends {entries : List Directory.Entry} {x : Except Failure (List AccountResult)}
    (h : Dialogue.Ends law (e.scanAll entries).run s tr x t) :
    ∃ vs, Rounds law e s vs t ∧ tr = vs.flatMap Visit.events ∧
      ((∃ results, x = .ok results ∧ vs.map Visit.entry = entries ∧
          List.Forall₂ Visit.Reports vs results) ∨
        ∃ f v, x = .error f ∧ vs.getLast? = some v ∧ v.Breaks f ∧
          vs.map Visit.entry <+: entries) := by
  induction entries generalizing s tr x with
  | nil =>
    obtain ⟨rfl, rfl, rfl⟩ := Dialogue.Ends.of_pure h
    exact ⟨[], .done s, rfl, .inl ⟨[], rfl, rfl, .nil⟩⟩
  | cons entry entries ih =>
    rw [scanAll_cons] at h
    obtain ⟨tr₁, tr₂, pr, s₁, rfl, h₁, h₂⟩ := Dialogue.Ends.of_bind h
    let v : Visit σ := ⟨entry, s, tr₁, .pure pr, s₁⟩
    have hclose := close_eq (v := v) h₁ rfl
    cases hc : pr.close with
    | error f =>
      rw [hc] at h₂ hclose
      obtain ⟨rfl, rfl, rfl⟩ := Dialogue.Ends.of_pure h₂
      exact ⟨[v], .visit (v := v) h₁ (.done _), by simp [v],
        .inr ⟨f, v, rfl, rfl, hclose, entries, rfl⟩⟩
    | ok r =>
      rw [hc] at h₂ hclose
      rcases ends_program_bind h₂ with ⟨f, rfl, h₃⟩ | ⟨tr₃, tr₄, rs, s₂, rfl, h₃, h₄⟩
      · obtain ⟨vs, hvs, rfl, hx⟩ := ih h₃
        obtain ⟨f', w, hf, hlast, hbreaks, hle⟩ := hx.resolve_left fun ⟨_, hx, _⟩ => nomatch hx
        refine ⟨v :: vs, .visit (v := v) h₁ hvs, rfl, .inr ⟨f', w, hf, ?_, hbreaks,
          (List.prefix_append_right_inj [entry]).2 hle⟩⟩
        rw [List.getLast?_cons, hlast]
        rfl
      · obtain ⟨rfl, rfl, rfl⟩ := Dialogue.Ends.of_pure h₄
        obtain ⟨vs, hvs, rfl, hx⟩ := ih h₃
        obtain ⟨results, hrs, hmap, hall⟩ := hx.resolve_right fun ⟨_, _, hx, _⟩ => nomatch hx
        cases hrs
        exact ⟨v :: vs, .visit (v := v) h₁ hvs, by simp [v],
          .inl ⟨_, rfl, congrArg (entry :: ·) hmap, .cons hclose hall⟩⟩

/-! ## §3. A whole scan. -/

/-- The opening of a scan: its name and the time, and the entries that it is to go
through. -/
def Engine.opening (e : Engine) (address : Option String) :
    Program (String × Nat × List Directory.Entry) := do
  let scanId ← Program.ask .scanId
  let start ← Program.ask .clock
  let entries ← Program.ofExcept (chosen address (← e.directory.list))
  return (scanId, start, entries)

theorem Engine.run_eq (address : Option String) :
    e.run address = (do
      let (scanId, start, entries) ← e.opening address
      let results ← e.scanAll entries
      let stop ← Program.ask .clock
      return { scanId, durationMs := (stop - start : Nat), results }) := by
  unfold Engine.run Engine.opening
  simp only [bind_assoc, pure_bind]

/-- What is asked in the opening. -/
def Opens (e : Engine) : Mailroom.Command → Prop
  | .scanId | .clock => True
  | c => Requests (e.directory.urlOf "mailboxes") c

/-- The opening keeps what each of its questions keeps. -/
theorem keeps_opening {I P : List Event → σ → Prop} (address : Option String)
    (hI : ∀ tr s, P tr s → I tr s)
    (hask : ∀ c r tr s s', Opens e c → P tr s → law s c r s' → P (tr ++ [⟨c, r⟩]) s')
    (h : P tr s) : (e.opening address).run.Keeps law I (fun _ tr s => P tr s) tr s := by
  unfold Engine.opening
  refine keeps_ask_bind (hI _ _ h) fun r₁ s₁ hr₁ => ?_
  have h₁ := hask .scanId r₁ tr s s₁ trivial h hr₁
  refine keeps_ask_bind (hI _ _ h₁) fun r₂ s₂ hr₂ => ?_
  have h₂ := hask .clock r₂ _ s₁ s₂ trivial h₁ hr₂
  have hpure : ∀ {α : Type} {x : Except Failure α} {tr s}, P tr s →
      (Dialogue.pure x).Keeps law I (fun _ tr s => P tr s) tr s := fun h => ⟨hI _ _ h, h⟩
  have hrequests : ∀ c r tr s s', Requests (e.directory.urlOf "mailboxes") c → P tr s →
      law s c r s' → P (tr ++ [⟨c, r⟩]) s' := by
    intro c r tr s s' hc
    refine hask c r tr s s' ?_
    cases c <;> first | exact hc | trivial
  have hlist : e.directory.list.run.Keeps law I (fun _ tr s => P tr s) (tr ++ [⟨.scanId, r₁⟩]
      ++ [⟨.clock, r₂⟩]) s₂ := by
    unfold Directory.Client.list Directory.Client.request
    refine keeps_program_bind (Q := fun _ tr s => P tr s) ?_ (fun payload tr s _ h => ?_)
      fun _ _ _ _ h => h
    · cases hleft : (e.directory.maxRetries + 1).toNat with
      | zero => exact hpure h₂
      | succ left =>
        exact (keeps_attempts e.directory _ _ hI hrequests (Nat.succ_pos left) h₂).mono
          fun _ _ _ _ h => h.1
    · cases Directory.entriesOf payload <;> exact hpure h
  refine keeps_program_bind hlist (fun entries tr s _ h => ?_) fun _ _ _ _ h => h
  cases chosen address entries <;> exact hpure h

/-- Every moment of a scan is in its opening or in its rounds, but for the clock at the
end. -/
theorem run_reaches {address : Option String} {d : Dialogue (Except Failure Report)}
    (h : Dialogue.Reaches law (e.run address).run s tr d s') :
    (∃ d₁, Dialogue.Reaches law (e.opening address).run s tr d₁ s') ∨
      ∃ tr₁ scanId start entries s₁ vs s₂ tr₂, Dialogue.Ends law (e.opening address).run s tr₁
          (.ok (scanId, start, entries)) s₁ ∧
        Rounds law e s₁ vs s₂ ∧ vs.map Visit.entry <+: entries ∧
        tr = tr₁ ++ vs.flatMap Visit.events ++ tr₂ ∧
        (tr₂ = [] ∧ s' = s₂ ∨ ∃ r, tr₂ = [⟨.clock, r⟩] ∧ law s₂ .clock r s') := by
  rw [Engine.run_eq] at h
  rcases reaches_program_bind h with hopening | ⟨tr₁, tr₂, ⟨scanId, start, entries⟩, s₁, rfl, h₁, h₂⟩
  · exact .inl hopening
  refine .inr ?_
  rcases reaches_program_bind h₂ with ⟨d₁, h₂⟩ | ⟨tr₃, tr₄, results, s₂, rfl, h₂, h₃⟩
  · obtain ⟨vs, hvs, rfl, hle⟩ := scanAll_reaches h₂
    exact ⟨tr₁, scanId, start, entries, s₁, vs, s', [], h₁, hvs, hle, by simp, .inl ⟨rfl, rfl⟩⟩
  · obtain ⟨vs, hvs, rfl, hle⟩ := scanAll_reaches h₂
    refine ⟨tr₁, scanId, start, entries, s₁, vs, s₂, tr₄, h₁, hvs, hle, by simp, ?_⟩
    -- After the rounds the clock is asked, and that is all.
    cases h₃ with
    | here => exact .inl ⟨rfl, rfl⟩
    | step lawful rest =>
      cases rest
      exact .inr ⟨_, rfl, lawful⟩

/-- A whole scan opened and failed, or it goes on with its rounds. -/
theorem run_ends {address : Option String} {x : Except Failure Report}
    (h : Dialogue.Ends law (e.run address).run s tr x t) :
    (∃ f, x = .error f ∧ Dialogue.Ends law (e.opening address).run s tr (.error f) t) ∨
      ∃ tr₁ scanId start entries s₁ vs s₂ tr₂, Dialogue.Ends law (e.opening address).run s tr₁
          (.ok (scanId, start, entries)) s₁ ∧
        Rounds law e s₁ vs s₂ ∧ tr = tr₁ ++ vs.flatMap Visit.events ++ tr₂ ∧
        ((∃ report, x = .ok report ∧ vs.map Visit.entry = entries ∧
            List.Forall₂ Visit.Reports vs report.results) ∨
          ∃ f v, x = .error f ∧ vs.getLast? = some v ∧ v.Breaks f ∧
            vs.map Visit.entry <+: entries) := by
  rw [Engine.run_eq] at h
  rcases ends_program_bind h with hopening | ⟨tr₁, tr₂, ⟨scanId, start, entries⟩, s₁, rfl, h₁, h₂⟩
  · exact .inl hopening
  refine .inr ?_
  rcases ends_program_bind h₂ with ⟨f, rfl, h₃⟩ | ⟨tr₃, tr₄, results, s₂, rfl, h₃, h₄⟩
  · obtain ⟨vs, hvs, rfl, hx⟩ := scanAll_ends h₃
    obtain ⟨f', v, hf, hlast⟩ := hx.resolve_left fun ⟨_, hx, _⟩ => nomatch hx
    cases hf
    exact ⟨tr₁, scanId, start, entries, s₁, vs, t, [], h₁, hvs, by simp, .inr ⟨f, v, rfl, hlast⟩⟩
  · obtain ⟨vs, hvs, rfl, hx⟩ := scanAll_ends h₃
    obtain ⟨results', hrs, hmap, hall⟩ := hx.resolve_right fun ⟨_, _, hx, _⟩ => nomatch hx
    cases hrs
    -- After the rounds the clock is asked, and that is all.
    cases h₄ with
    | @step _ _ _ _ _ r _ _ lawful rest =>
      cases rest
      exact ⟨tr₁, scanId, start, entries, s₁, vs, s₂, [⟨.clock, r⟩], h₁, hvs, by simp,
        .inl ⟨_, rfl, hmap, hall⟩⟩

end Mailroom.Scan
