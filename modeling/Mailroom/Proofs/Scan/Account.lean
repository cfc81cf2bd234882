import Mailroom.Proofs.Scan.Course
/-!
  Mailroom.Proofs.Scan.Account
  ────────────────────────────────
  **FROM THE DIRECTORY TO THE END OF A CONNECTION.**

  Around the scan of a session stand the request for the mailbox, the connection to
  its server and the end of the connection.  None of these changes the moment, so
  the whole scan of an account stays on course:

      scanEntry_keeps — at every moment `OnCourse`, and at its end `EndsCourse`
      scanEntry_ends  — what that says of a whole run
-/
namespace Mailroom.Scan

open Mailroom.Imap Mailroom.Mail Mailroom.Directory

/-! ## §1. Programs. -/

section Programs

variable {α β σ : Type} {law : Law σ} {I : List Event → σ → Prop} {tr : List Event} {s : σ}
  {Q : Except Failure α → List Event → σ → Prop} {R : Except Failure β → List Event → σ → Prop}

/-- A failure is no value. -/
theorem of_error_eq_ok {ε γ : Type} {e : ε} {P : γ → Prop} (c : γ)
    (h : (.error e : Except ε γ) = .ok c) : P c := by
  cases h

theorem keeps_program_bind {prog : Program α} {f : α → Program β}
    (h : prog.run.Keeps law I Q tr s)
    (hok : ∀ a tr s, I tr s → Q (.ok a) tr s → (f a).run.Keeps law I R tr s)
    (herr : ∀ e tr s, I tr s → Q (.error e) tr s → R (.error e) tr s) :
    (prog >>= f).run.Keeps law I R tr s := by
  show (prog.run.bind _).Keeps _ _ _ _ _
  refine Dialogue.Keeps.bind (h.mono ?_)
  intro x tr' s' hI hx
  rcases x with e | a
  · exact ⟨hI, herr e tr' s' hI hx⟩
  · exact hok a tr' s' hI hx

theorem keeps_lift_bind {d : Dialogue α} {f : α → Program β}
    (h : d.Keeps law I (fun a => (f a).run.Keeps law I R) tr s) :
    ((ExceptT.lift d : Program α) >>= f).run.Keeps law I R tr s := by
  show ((d.bind fun a => Dialogue.pure (Except.ok a : Except Failure α)).bind _).Keeps _ _ _ _ _
  exact Dialogue.Keeps.bind (Dialogue.Keeps.bind (h.mono fun a tr s hI ha => ⟨hI, ha⟩))

theorem keeps_ask_bind {c : Mailroom.Command} {f : c.Answer → Program β} (hI : I tr s)
    (h : ∀ r s', law s c r s' → (f r).run.Keeps law I R (tr ++ [⟨c, r⟩]) s') :
    (Program.ask c >>= f).run.Keeps law I R tr s :=
  ⟨hI, h⟩

end Programs

/-! ## §2. The mailbox in the directory. -/

variable {g : Regime} {p : Int} {J : Moment → Prop} {tr : List Event} {s : Site} {μ : Moment}

/-- A silent question of a program. -/
theorem keeps_silent_bind {β : Type} {c : Mailroom.Command} {f : c.Answer → Program β}
    {R : Except Failure β → List Event → Site → Prop} (hc : Silent c) (hμ : moment p tr s = μ)
    (hJ : J μ)
    (h : ∀ r s', g.law s c r s' → moment p (tr ++ [⟨c, r⟩]) s' = μ →
      (f r).run.Keeps g.law (fun tr s => J (moment p tr s)) R (tr ++ [⟨c, r⟩]) s') :
    (Program.ask c >>= f).run.Keeps g.law (fun tr s => J (moment p tr s)) R tr s :=
  keeps_ask_bind (hμ ▸ hJ) fun r s' hr => h r s' hr ((moment_silent hc hr).trans hμ)

/-- What failure comes of the answer to a request. -/
def Spoils : Directory.Outcome → Failure → Prop
  | .response r, f => (r.status < 400 → r.body = none) ∧ ∃ e, f = .directory e
  | .unreachable _, f => ∃ e, f = .directory e
  | .refused reason, f => f = .request reason
  | .foreign reason, f => f = .foreign reason

/-- What is asked for the record at a place: requests for it, and the pauses between
them. -/
def Requests (url : String) : Mailroom.Command → Prop
  | .get req => req.url = url
  | .draw | .sleep _ => True
  | _ => False

/-- The directory supplied a record at a place. -/
def Supplied (tr : List Event) (url : String) (body : Json) : Prop :=
  ∃ req r, (⟨.get req, .response r⟩ : Event) ∈ tr ∧ req.url = url ∧ r.status < 400 ∧
    r.body = some body

theorem Supplied.mono {tr tr' : List Event} {url : String} {body : Json}
    (h : Supplied tr url body) (hle : tr <+: tr') : Supplied tr' url body := by
  obtain ⟨req, r, hev, h⟩ := h
  exact ⟨req, r, hle.mem hev, h⟩

theorem Requests.silent {url : String} {c : Mailroom.Command} (h : Requests url c) : Silent c := by
  cases c <;> trivial

/-- Requests to the directory keep what each of their questions keeps.  The recursion
ends before no attempt is left, so a failure comes from an answer. -/
theorem keeps_attempts {σ : Type} {law : Law σ} {I P : List Event → σ → Prop} {tr : List Event}
    {s : σ} (c : Client) (endpoint : String) (params : Json) (hI : ∀ tr s, P tr s → I tr s)
    (hask : ∀ q r tr s s', Requests (c.urlOf endpoint) q → P tr s → law s q r s' →
      P (tr ++ [⟨q, r⟩]) s') {left index : Nat} (hleft : 0 < left) (h : P tr s) :
    (c.attempts endpoint params left index).run.Keeps law I
      (fun x tr' s' => P tr' s' ∧ match x with
        | .ok body => Supplied tr' (c.urlOf endpoint) body
        | .error f => ∃ req r, (⟨.get req, r⟩ : Event) ∈ tr' ∧ Spoils r f) tr s := by
  have hpause : ∀ {β : Type} (index : Nat) (r? : Option Directory.Response)
      {f : Unit → Program β} {R : Except Failure β → List Event → σ → Prop} {tr s}, P tr s →
      (∀ tr s, P tr s → (f ()).run.Keeps law I R tr s) →
      (c.pause index r? >>= f).run.Keeps law I R tr s := by
    intro β index r? f R tr s h hf
    unfold Client.pause
    rw [bind_assoc]
    refine keeps_ask_bind (hI _ _ h) fun x s₁ hx => ?_
    have h₁ := hask .draw x tr s s₁ trivial h hx
    refine keeps_ask_bind (hI _ _ h₁) fun _ s₂ hr => ?_
    exact hf _ _ (hask (.sleep _) _ _ s₁ s₂ trivial h₁ hr)
  induction left generalizing index tr s with
  | zero => cases hleft
  | succ left ih =>
    unfold Client.attempts
    refine keeps_ask_bind (hI _ _ h) fun r s₁ hr => ?_
    have h₁ := hask (.get _) r tr s s₁ rfl h hr
    have hI₁ := hI _ _ h₁
    have hlast : ∀ x : Event, x ∈ tr ++ [x] := fun x => List.mem_append_right _ List.mem_cons_self
    -- A failure is final, or it is tried again while there are attempts left.
    match r with
    | .foreign reason => exact ⟨hI₁, h₁, _, _, hlast _, rfl⟩
    | .refused reason => exact ⟨hI₁, h₁, _, _, hlast _, rfl⟩
    | .unreachable reason =>
      dsimp only
      split
      · exact ⟨hI₁, h₁, _, _, hlast _, _, rfl⟩
      next hne =>
        refine hpause index none h₁ fun tr₂ s₂ h₂ => ih ?_ h₂
        simp only [beq_iff_eq] at hne
        omega
    | .response r =>
      dsimp only
      split
      next hstatus =>
        cases hb : r.body with
        | some body => exact ⟨hI₁, h₁, _, r, hlast _, rfl, hstatus, hb⟩
        | none => exact ⟨hI₁, h₁, _, _, hlast _, fun _ => hb, _, rfl⟩
      next hstatus =>
        split
        next hagain =>
          refine hpause index (some r) h₁ fun tr₂ s₂ h₂ => ih ?_ h₂
          simp only [Bool.and_eq_true, bne_iff_ne, ne_eq] at hagain
          omega
        next => exact ⟨hI₁, h₁, _, _, hlast _, fun hlt => absurd hlt hstatus, _, rfl⟩

/-- A request that failed was not answered smoothly. -/
theorem Spoils.not_smooth {req : Directory.Request} {r : Directory.Outcome} {f : Failure}
    (h : Spoils r f) : ¬ Smooth p ⟨.get req, r⟩ := by
  intro hs
  obtain ⟨response, body, mailbox, rfl, hstatus, hbody, -⟩ := hs
  rw [h.1 hstatus] at hbody
  cases hbody

theorem keeps_mailbox (c : Client) (id : Int) (hμ : moment p tr s = μ) (hJ : J μ) :
    (c.mailbox id).run.Keeps g.law (fun tr s => J (moment p tr s))
      (fun x tr' s' => moment p tr' s' = μ ∧ match x with
        | .ok _ => True
        | .error _ => Trouble p tr' ∨ c.maxRetries < 0) tr s := by
  unfold Client.mailbox Client.request
  by_cases hmax : c.maxRetries < 0
  · -- Without any attempt there is no answer that could have been at fault.
    have hnone : (c.maxRetries + 1).toNat = 0 := by omega
    rw [hnone]
    subst hμ
    exact ⟨hJ, rfl, .inr hmax⟩
  · have hasked : ∀ q r tr s s', Requests (c.urlOf s!"mailboxes/{id}") q → moment p tr s = μ →
        g.law s q r s' → moment p (tr ++ [⟨q, r⟩]) s' = μ :=
      fun q r tr s s' hq hμ hr => (moment_silent hq.silent hr).trans hμ
    refine keeps_program_bind (keeps_attempts (P := fun tr s => moment p tr s = μ) c _ _
      (fun tr s hμ => hμ ▸ hJ) hasked (by omega) hμ) ?_ ?_
    rotate_left
    · intro f tr s _ h
      obtain ⟨hμ, req, r, hev, hspoils⟩ := h
      exact ⟨hμ, .inl ⟨_, hev, hspoils.not_smooth⟩⟩
    intro body tr₁ s₁ hJ₁ h
    obtain ⟨hμ₁, req, r, hev, -, -, hb⟩ := h
    cases hm : Mailbox.ofJson body with
    | ok mailbox => exact ⟨hJ₁, hμ₁, trivial⟩
    | error e =>
      refine ⟨hJ₁, hμ₁, .inl ⟨_, hev, ?_⟩⟩
      intro h
      obtain ⟨r', body', mailbox, hr', -, hb', hm'⟩ := h
      cases hr'
      rw [hb] at hb'
      cases hb'
      rw [hm] at hm'
      cases hm'

/-! ## §3. The connection. -/

theorem keeps_connect (e : Endpoint) (hμ : moment p tr s = μ) (hJ : J μ) :
    (connect e).run.Keeps g.law (fun tr s => J (moment p tr s))
      (fun x tr' s' => moment p tr' s' = μ ∧ match x with
        | .ok _ => s'.host = e.host ∧ ((∃ h, e.host = .text h) ∨ Trouble p tr')
        | .error _ => Trouble p tr') tr s := by
  unfold connect
  refine keeps_silent_bind trivial hμ hJ fun r s₁ hr hμ₁ => ?_
  have hJ₁ := hJ
  rw [← hμ₁] at hJ₁
  obtain rfl : s₁ = { s with host := e.host, selected := none } := hr
  have hnamed : (∃ h, e.host = .text h) ∨ Trouble p (tr ++ [⟨.connect e, r⟩]) := by
    by_cases h : ∃ h, e.host = .text h
    · exact .inl h
    · exact .inr (Trouble.last fun hs => h hs.1)
  match r with
  | .error fault =>
    exact ⟨hJ₁, hμ₁, Trouble.last fun ⟨_, capabilities, h⟩ => by cases h⟩
  | .ok capabilities =>
    dsimp only
    split
    · refine keeps_silent_bind trivial hμ₁ hJ fun r s₂ hr hμ₂ => ?_
      have hJ₂ := hJ
      rw [← hμ₂] at hJ₂
      obtain ⟨-, rfl⟩ := hr
      match r with
      | .error fault => exact ⟨hJ₂, hμ₂, Trouble.last (by simp [Smooth, accepted?])⟩
      | .ok r => exact ⟨hJ₂, hμ₂, rfl, hnamed.imp_right fun ht => ht.append _⟩
    · exact ⟨hJ₁, hμ₁, rfl, hnamed⟩

theorem keeps_login (m : Mailbox) (e : Endpoint) (hμ : moment p tr s = μ) (hJ : J μ) :
    (login m e).run.Keeps g.law (fun tr s => J (moment p tr s))
      (fun x tr' s' => moment p tr' s' = μ ∧ match x with
        | .ok _ => s' = s ∧ tr <+: tr'
        | .error _ => Trouble p tr') tr s := by
  unfold login
  refine keeps_silent_bind trivial hμ hJ fun r s₁ hr hμ₁ => ?_
  have hJ₁ := hJ
  rw [← hμ₁] at hJ₁
  obtain ⟨hforeign, rfl⟩ := hr
  rcases r with (reason | reason) | r
  · have ht : Trouble p (tr ++ [⟨.imap (.login m.imap.user m.imap.password),
        .error (.connection reason)⟩]) := Trouble.last (by simp [Smooth, accepted?])
    refine keeps_silent_bind trivial hμ₁ hJ fun r s₂ hr hμ₂ => ?_
    have hJ₂ := hJ
    rw [← hμ₂] at hJ₂
    obtain ⟨hforeign, rfl⟩ := hr
    rcases r with (reason | reason) | r
    · exact ⟨hJ₂, hμ₂, ht.append _⟩
    · exact absurd rfl (hforeign reason)
    · exact ⟨hJ₂, hμ₂, ht.append _⟩
  · exact absurd rfl (hforeign reason)
  · exact ⟨hJ₁, hμ₁, rfl, List.prefix_append _ _⟩

/-- A started session is new and knows its server. -/
theorem keeps_start (t : Transport) (m : Mailbox) (hp : p = t.previewLength)
    (hμ : moment p tr s = μ) (hJ : J μ) :
    (t.start m).run.Keeps g.law (fun tr s => J (moment p tr s))
      (fun x tr' s' => moment p tr' s' = μ ∧ match x with
        | .ok ss => Linked p ss tr' s' ∧ ss.sentFolder = none
        | .error _ => Trouble p tr') tr s := by
  unfold Transport.start
  refine keeps_program_bind (keeps_connect (t.endpoint m) hμ hJ) ?_ fun e tr s _ h => h
  intro _ tr₁ s₁ _ h
  obtain ⟨hμ₁, hhost, hnamed⟩ := h
  refine keeps_program_bind (keeps_login m (t.endpoint m) hμ₁ hJ) ?_ fun e tr s _ h => h
  intro _ tr₂ s₂ hJ₂ h
  obtain ⟨hμ₂, rfl, rest, rfl⟩ := h
  refine ⟨hJ₂, hμ₂, ⟨hp.symm, hhost.symm, ?_, nofun⟩, rfl⟩
  rw [hhost]
  exact hnamed.imp_right fun ht => ht.append rest

/-- The end of a connection leaves the moment as it is. -/
theorem keeps_close {ss : Session} (hμ : moment p tr s = μ) (hJ : J μ) :
    Holds g p J close (fun x _ tr' s' => x = .ok () ∧ moment p tr' s' = μ ∧ tr <+: tr')
      ss tr s := by
  unfold close
  refine Holds.ask_bind (hμ ▸ hJ) fun r s₁ hr => ?_
  have hsilent : Silent (.imap .logout) := trivial
  have hμ₁ : moment p (tr ++ [⟨.imap .logout, r⟩]) s₁ = μ := (moment_silent hsilent hr).trans hμ
  refine Holds.update_bind ?_
  match r, hr with
  | .ok r, hr => exact Holds.pure (hμ₁ ▸ hJ) ⟨rfl, hμ₁, List.prefix_append _ _⟩
  | .error (.connection reason), hr =>
    exact Holds.pure (hμ₁ ▸ hJ) ⟨rfl, hμ₁, List.prefix_append _ _⟩
  | .error (.foreign reason), hr => exact absurd rfl (hr.1 reason)

/-! ## §4. The scan of an account. -/

theorem EndsCourse.append {e : Engine} {s₀ s' : Site} {pr : Progress} {rest : List Event}
    (h : EndsCourse e g s₀ tr s pr)
    (hμ : moment e.transport.previewLength (tr ++ rest) s'
      = moment e.transport.previewLength tr s) : EndsCourse e g s₀ (tr ++ rest) s' pr := by
  unfold EndsCourse
  rw [hμ]
  exact ⟨h.1, fun hf => (h.2 hf).imp_left fun ht => ht.append rest⟩

/-- **The scan of an account stays on course**, whatever fails, and ends it. -/
theorem scanEntry_keeps (e : Engine) (g : Regime) (entry : Entry) (s₀ : Site) :
    (e.scanEntry entry).Keeps g.law
      (fun tr s => OnCourse e g s₀ (moment e.transport.previewLength tr s))
      (fun pr tr s => EndsCourse e g s₀ tr s pr) [] s₀ := by
  have hstart : Course e g s₀ [] [] [] (moment e.transport.previewLength [] s₀) :=
    .start rfl rfl rfl
  unfold Engine.scanEntry
  refine Dialogue.Keeps.bind
    (Dialogue.Keeps.mono (Q := EndsScan e g s₀ entry.email) ?_ ?_)
  · refine keeps_program_bind (keeps_mailbox e.directory entry.id rfl ⟨_, _, _, hstart⟩) ?_ ?_
    · intro mailbox tr₁ s₁ _ h
      obtain ⟨hμ₁, -⟩ := h
      unfold Transport.within
      refine keeps_program_bind (keeps_start e.transport mailbox rfl hμ₁ ⟨_, _, _, hstart⟩) ?_ ?_
      · intro ss tr₂ s₂ _ h
        obtain ⟨hμ₂, hl, hnew⟩ := h
        refine keeps_lift_bind
          (Dialogue.Keeps.mono (Holds.scanSession rfl hl hnew hμ₂) ?_)
        intro last tr₃ s₃ hJ₃ hx
        obtain ⟨x, ss₃⟩ := last
        refine keeps_lift_bind (Dialogue.Keeps.mono (keeps_close rfl hJ₃) ?_)
        -- The connection ends whatever the outcome of the session was.
        intro last tr₄ s₄ hJ₄ h
        obtain ⟨closed, ss₄⟩ := last
        obtain ⟨rfl, hμ₄, rest, rfl⟩ := h
        rcases x with f | pr
        · exact ⟨hJ₄, EndsCourse.append hx hμ₄⟩
        · exact ⟨hJ₄, EndsCourse.append hx hμ₄⟩
      · intro f tr₂ s₂ _ h
        obtain ⟨hμ₂, ht⟩ := h
        rw [← hμ₂] at hstart
        exact Holds.fails hstart ht
    · intro f tr₁ s₁ _ h
      obtain ⟨hμ₁, ht⟩ := h
      rw [← hμ₁] at hstart
      exact ⟨⟨[], [], [], [], hstart, rfl, .inl ⟨rfl, rfl⟩, nofun, .inr ⟨rfl, rfl, rfl, rfl⟩⟩,
        fun _ => ht⟩
  · intro x tr s hJ hx
    rcases x with f | pr
    · exact ⟨hJ, hx⟩
    · exact ⟨hJ, hx⟩

/-- A whole run of the scan of an account ends its course. -/
theorem scanEntry_ends {e : Engine} {entry : Entry} {s₀ : Site} {pr : Progress}
    (hrun : Dialogue.Ends g.law (e.scanEntry entry) s₀ tr pr s) :
    EndsCourse e g s₀ tr s pr := by
  have hends := (scanEntry_keeps e g entry s₀).ends hrun
  rwa [List.nil_append] at hends

/-- Where a STORE that fails has no effect, all writes were confirmed. -/
theorem scanEntry_confirmed {e : Engine} {entry : Entry} {s₀ : Site} {pr : Progress}
    (htorn : ¬ g.torn) (hrun : Dialogue.Ends g.law (e.scanEntry entry) s₀ tr pr s) :
    ∃ judged written counted, Ended e g s₀ judged written written counted
      (moment e.transport.previewLength tr s) pr := by
  obtain ⟨⟨judged, written, confirmed, counted, h⟩, -⟩ := scanEntry_ends hrun
  obtain rfl : written = confirmed := h.confirms.resolve_right fun ht => htorn ht.1
  exact ⟨judged, written, counted, h⟩

end Mailroom.Scan
