import Mailroom.Proofs.Scan.Moment
/-!
  Mailroom.Proofs.Scan.Holding
  ────────────────────────────────
  **GOING THROUGH THE PROGRAMS OF A SESSION STEP BY STEP.**

  `Upholds law I prog Q ss tr s` says of a program of a session, started with what
  the session knows, `ss`, after the events `tr`, in a world in `s`: `I` is true all
  along every run, and `Q` of its end.  There is one rule for each way to build a
  program.  `Holds g p J prog Q ss tr s` is the same with a server of a regime and a
  property `J` of the moments of a scan; `Holds.command_bind` is the only rule that
  meets the server.

  A run is in `Trouble` when some answer in it was not `Smooth`, that is, when a
  command was not carried out or its answer could not be read.  The rules of the
  operations say of every failure that it comes from trouble.
-/
namespace Mailroom.Scan

open Mailroom.Imap Mailroom.Mail Mailroom.Reply

/-! ## §1. Smooth answers. -/

/-- An answer that gives what was asked for, in a form that can be read.  A search must
find fewer than `2 ^ 63` messages, as pages are counted with numbers of 64 bits. -/
def Smooth (previewLength : Int) : Event → Prop
  | ⟨.imap (.search _), r⟩ =>
    ∃ items uids, accepted? r = some items ∧ uidsOf items = .ok uids ∧ uids.length < 2 ^ 63
  | ⟨.imap (.fetch _), r⟩ => (messagesOf previewLength r).isSome
  | ⟨.imap .list, r⟩ => ∃ items folders, accepted? r = some items ∧ readFolders items = .ok folders
  | ⟨.imap _, r⟩ => (accepted? r).isSome
  | ⟨.classify _, r⟩ => (categoryIn r).isSome
  | ⟨.connect e, r⟩ => (∃ h, e.host = .text h) ∧ ∃ capabilities, r = .ok capabilities
  | ⟨.get _, r⟩ => ∃ response body mailbox, r = .response response ∧ response.status < 400 ∧
      response.body = some body ∧ Directory.Mailbox.ofJson body = .ok mailbox
  | _ => True

/-- What is said of the value of an option is decided on it. -/
local instance decidableSome {α : Type} {P : α → Prop} [DecidablePred P] :
    (x : Option α) → Decidable (∃ a, x = some a ∧ P a)
  | none => isFalse (by simp)
  | some a => decidable_of_iff (P a) (by simp)

/-- What is said of the value of a result is decided on it. -/
local instance decidableOk {ε α : Type} {P : α → Prop} [DecidablePred P] :
    (x : Except ε α) → Decidable (∃ a, x = .ok a ∧ P a)
  | .error _ => isFalse (by simp)
  | .ok a => decidable_of_iff (P a) (by simp)

local instance decidableText : (j : Json) → Decidable (∃ h, j = .text h)
  | .text h => isTrue ⟨h, rfl⟩
  | .null | .bool _ | .int _ | .float _ | .list _ | .object _ => isFalse nofun

instance (p : Int) : DecidablePred (Smooth p)
  | ⟨.imap (.search _), r⟩ =>
    decidable_of_iff (∃ items, accepted? r = some items ∧
        ∃ uids, uidsOf items = .ok uids ∧ uids.length < 2 ^ 63)
      (by simp only [Smooth, exists_and_left])
  | ⟨.imap (.fetch _), r⟩ => inferInstanceAs (Decidable ((messagesOf p r).isSome = true))
  | ⟨.imap .list, r⟩ =>
    decidable_of_iff (∃ items, accepted? r = some items ∧
        ∃ folders, readFolders items = .ok folders ∧ True)
      (by simp only [Smooth, exists_and_left, and_true])
  | ⟨.imap (.select _ _), r⟩ | ⟨.imap (.store _ _ _), r⟩ | ⟨.imap (.append _ _ _), r⟩
  | ⟨.imap .startTls, r⟩ | ⟨.imap (.login _ _), r⟩ | ⟨.imap .logout, r⟩ =>
    inferInstanceAs (Decidable ((accepted? r).isSome = true))
  | ⟨.classify _, r⟩ => inferInstanceAs (Decidable ((categoryIn r).isSome = true))
  | ⟨.connect e, r⟩ =>
    decidable_of_iff ((∃ h, e.host = .text h) ∧ ∃ capabilities, r = .ok capabilities ∧ True)
      (by simp only [Smooth, and_true])
  | ⟨.get _, .response r⟩ =>
    decidable_of_iff (r.status < 400 ∧ ∃ body, r.body = some body ∧
        ∃ mailbox, Directory.Mailbox.ofJson body = .ok mailbox ∧ True)
      (by simp [Smooth])
  | ⟨.get _, .foreign _⟩ | ⟨.get _, .refused _⟩ | ⟨.get _, .unreachable _⟩ =>
    isFalse (by simp [Smooth])
  | ⟨.scanId, _⟩ | ⟨.clock, _⟩ | ⟨.stamp, _⟩ | ⟨.draw, _⟩ | ⟨.sleep _, _⟩ | ⟨.smtp _, _⟩ =>
    isTrue trivial

/-- Some answer was not smooth. -/
def Trouble (previewLength : Int) (tr : List Event) : Prop := ∃ ev ∈ tr, ¬ Smooth previewLength ev

theorem Trouble.append {p : Int} {tr : List Event} (h : Trouble p tr) (tr' : List Event) :
    Trouble p (tr ++ tr') := by
  obtain ⟨ev, hev, hs⟩ := h
  exact ⟨ev, List.mem_append_left _ hev, hs⟩

theorem Trouble.last {p : Int} {tr : List Event} {ev : Event} (h : ¬ Smooth p ev) :
    Trouble p (tr ++ [ev]) :=
  ⟨ev, by simp, h⟩

/-! ## §2. Programs of a session. -/

theorem SessionM.run_bind {α β : Type} (prog : SessionM α) (f : α → SessionM β) (ss : Session) :
    (prog >>= f).run.run ss = (prog.run.run ss).bind fun x => match x.1 with
      | .ok a => (f a).run.run x.2
      | .error e => .pure (.error e, x.2) := by
  show Dialogue.bind _ _ = _
  congr 1
  funext x
  rcases x with ⟨x | x, ss'⟩ <;> rfl

/-- The end of a program of a session: its outcome, what the session knows, the
events and the server. -/
abbrev Outcome (α : Type) : Type := Except Failure α → Session → List Event → Site → Prop

/-- `I` is true all along every run of a program of a session, and `Q` of its end. -/
def Upholds {σ α : Type} (law : Law σ) (I : List Event → σ → Prop) (prog : SessionM α)
    (Q : Except Failure α → Session → List Event → σ → Prop) (ss : Session) (tr : List Event)
    (s : σ) : Prop :=
  (prog.run.run ss).Keeps law I (fun x => Q x.1 x.2) tr s

namespace Upholds

variable {σ α β : Type} {law : Law σ} {I : List Event → σ → Prop}
  {Q : Except Failure α → Session → List Event → σ → Prop}
  {R : Except Failure β → Session → List Event → σ → Prop} {prog : SessionM α} {ss : Session}
  {tr : List Event} {s : σ}

theorem mono {Q' : Except Failure α → Session → List Event → σ → Prop}
    (h : Upholds law I prog Q ss tr s)
    (hQ : ∀ x ss tr s, I tr s → Q x ss tr s → Q' x ss tr s) : Upholds law I prog Q' ss tr s :=
  Dialogue.Keeps.mono h fun x tr s hI hx => hQ x.1 x.2 tr s hI hx

/-- A program may be gone through in two parts. -/
theorem bind {f : α → SessionM β} (h : Upholds law I prog Q ss tr s)
    (hok : ∀ a ss tr s, I tr s → Q (.ok a) ss tr s → Upholds law I (f a) R ss tr s)
    (herr : ∀ e ss tr s, I tr s → Q (.error e) ss tr s → R (.error e) ss tr s) :
    Upholds law I (prog >>= f) R ss tr s := by
  unfold Upholds
  rw [SessionM.run_bind]
  refine Dialogue.Keeps.bind (Dialogue.Keeps.mono h ?_)
  intro last tr' s' hI hx
  obtain ⟨x | x, ss'⟩ := last
  · exact ⟨hI, herr x ss' tr' s' hI hx⟩
  · exact hok x ss' tr' s' hI hx

theorem pure {a : α} (hI : I tr s) (hQ : Q (.ok a) ss tr s) :
    Upholds law I (pure a) Q ss tr s :=
  ⟨hI, hQ⟩

theorem throw {f : Failure} (hI : I tr s) (hQ : Q (.error f) ss tr s) :
    Upholds law I (throw f) Q ss tr s :=
  ⟨hI, hQ⟩

theorem ask_bind {c : Mailroom.Command} {f : c.Answer → SessionM β} (hI : I tr s)
    (h : ∀ r s', law s c r s' → Upholds law I (f r) R ss (tr ++ [⟨c, r⟩]) s') :
    Upholds law I (SessionM.ask c >>= f) R ss tr s :=
  ⟨hI, h⟩

theorem session_bind {f : Session → SessionM β} (h : Upholds law I (f ss) R ss tr s) :
    Upholds law I (SessionM.session >>= f) R ss tr s :=
  h

theorem update_bind {u : Session → Session} {f : Unit → SessionM β}
    (h : Upholds law I (f ()) R (u ss) tr s) : Upholds law I (SessionM.update u >>= f) R ss tr s :=
  h

theorem update {Q : Except Failure Unit → Session → List Event → σ → Prop}
    {u : Session → Session} (hI : I tr s) (hQ : Q (.ok ()) (u ss) tr s) :
    Upholds law I (SessionM.update u) Q ss tr s :=
  ⟨hI, hQ⟩

theorem ofExcept {ε : Type} {failure : ε → Failure} {x : Except ε α} (hI : I tr s)
    (hok : ∀ a, x = .ok a → Q (.ok a) ss tr s)
    (herr : ∀ e, x = .error e → Q (.error (failure e)) ss tr s) :
    Upholds law I (SessionM.ofExcept failure x) Q ss tr s := by
  cases x with
  | ok a => exact ⟨hI, hok a rfl⟩
  | error e => exact ⟨hI, herr e rfl⟩

theorem ofExcept_bind {ε : Type} {failure : ε → Failure} {x : Except ε α} {f : α → SessionM β}
    (hI : I tr s) (hok : ∀ a, x = .ok a → Upholds law I (f a) R ss tr s)
    (herr : ∀ e, x = .error e → R (.error (failure e)) ss tr s) :
    Upholds law I (SessionM.ofExcept failure x >>= f) R ss tr s := by
  cases x with
  | ok a => exact hok a rfl
  | error e => exact ⟨hI, herr e rfl⟩

theorem attempt_bind {f : Except Failure α → SessionM β} (h : Upholds law I prog Q ss tr s)
    (hf : ∀ x ss tr s, I tr s → Q x ss tr s → Upholds law I (f x) R ss tr s) :
    Upholds law I (SessionM.attempt prog >>= f) R ss tr s := by
  unfold Upholds
  rw [SessionM.run_bind]
  -- The outcome is kept as a value, so the program goes on from both kinds of it.
  refine Dialogue.Keeps.bind ?_
  show ((prog.run.run ss).bind fun x =>
    Dialogue.pure ((Except.ok x.1 : Except Failure (Except Failure α)), x.2)).Keeps _ _ _ _ _
  exact Dialogue.Keeps.bind (Dialogue.Keeps.mono h fun x tr s hI hx =>
    ⟨hI, hf x.1 x.2 tr s hI hx⟩)

theorem ofProgram_bind {prog : Program α} {f : α → SessionM β}
    {Q : Except Failure α → List Event → σ → Prop} (h : prog.run.Keeps law I Q tr s)
    (hok : ∀ a tr s, I tr s → Q (.ok a) tr s → Upholds law I (f a) R ss tr s)
    (herr : ∀ e tr s, I tr s → Q (.error e) tr s → R (.error e) ss tr s) :
    Upholds law I (SessionM.ofProgram prog >>= f) R ss tr s := by
  unfold Upholds
  rw [SessionM.run_bind]
  refine Dialogue.Keeps.bind ?_
  show (prog.run.bind fun x => Dialogue.pure (x, ss)).Keeps _ _ _ _ _
  refine Dialogue.Keeps.bind (h.mono ?_)
  intro x tr' s' hI hx
  rcases x with e | a
  · exact ⟨hI, hI, herr e tr' s' hI hx⟩
  · exact ⟨hI, hok a tr' s' hI hx⟩

end Upholds

/-! ## §3. Programs of a session with a server. -/

/-- `J` is true of every moment of every run of a program, and `Q` of its end. -/
def Holds {α : Type} (g : Regime) (p : Int) (J : Moment → Prop) (prog : SessionM α)
    (Q : Outcome α) (ss : Session) (tr : List Event) (s : Site) : Prop :=
  (prog.run.run ss).Keeps g.law (fun tr s => J (moment p tr s)) (fun x => Q x.1 x.2) tr s

/-! The rules for programs of a session, at the moments of a scan. -/

namespace Holds

variable {α β : Type} {g : Regime} {p : Int} {J : Moment → Prop} {Q : Outcome α} {R : Outcome β}
  {prog : SessionM α} {ss : Session} {tr : List Event} {s : Site}

theorem mono {Q' : Outcome α} (h : Holds g p J prog Q ss tr s)
    (hQ : ∀ x ss tr s, J (moment p tr s) → Q x ss tr s → Q' x ss tr s) :
    Holds g p J prog Q' ss tr s :=
  Upholds.mono h hQ

theorem bind {f : α → SessionM β} (h : Holds g p J prog Q ss tr s)
    (hok : ∀ a ss tr s, J (moment p tr s) → Q (.ok a) ss tr s → Holds g p J (f a) R ss tr s)
    (herr : ∀ e ss tr s, J (moment p tr s) → Q (.error e) ss tr s → R (.error e) ss tr s) :
    Holds g p J (prog >>= f) R ss tr s :=
  Upholds.bind h hok herr

theorem pure {a : α} (hJ : J (moment p tr s)) (hQ : Q (.ok a) ss tr s) :
    Holds g p J (pure a) Q ss tr s :=
  Upholds.pure hJ hQ

theorem throw {f : Failure} (hJ : J (moment p tr s)) (hQ : Q (.error f) ss tr s) :
    Holds g p J (throw f) Q ss tr s :=
  Upholds.throw hJ hQ

theorem ask_bind {c : Mailroom.Command} {f : c.Answer → SessionM β} (hJ : J (moment p tr s))
    (h : ∀ r s', g.law s c r s' → Holds g p J (f r) R ss (tr ++ [⟨c, r⟩]) s') :
    Holds g p J (SessionM.ask c >>= f) R ss tr s :=
  Upholds.ask_bind hJ h

theorem session_bind {f : Session → SessionM β} (h : Holds g p J (f ss) R ss tr s) :
    Holds g p J (SessionM.session >>= f) R ss tr s :=
  Upholds.session_bind h

theorem update_bind {u : Session → Session} {f : Unit → SessionM β}
    (h : Holds g p J (f ()) R (u ss) tr s) : Holds g p J (SessionM.update u >>= f) R ss tr s :=
  Upholds.update_bind h

theorem update {Q : Outcome Unit} {u : Session → Session} (hJ : J (moment p tr s))
    (hQ : Q (.ok ()) (u ss) tr s) : Holds g p J (SessionM.update u) Q ss tr s :=
  Upholds.update hJ hQ

theorem ofExcept {ε : Type} {failure : ε → Failure} {x : Except ε α} (hJ : J (moment p tr s))
    (hok : ∀ a, x = .ok a → Q (.ok a) ss tr s)
    (herr : ∀ e, x = .error e → Q (.error (failure e)) ss tr s) :
    Holds g p J (SessionM.ofExcept failure x) Q ss tr s :=
  Upholds.ofExcept hJ hok herr

theorem ofExcept_bind {ε : Type} {failure : ε → Failure} {x : Except ε α} {f : α → SessionM β}
    (hJ : J (moment p tr s)) (hok : ∀ a, x = .ok a → Holds g p J (f a) R ss tr s)
    (herr : ∀ e, x = .error e → R (.error (failure e)) ss tr s) :
    Holds g p J (SessionM.ofExcept failure x >>= f) R ss tr s :=
  Upholds.ofExcept_bind hJ hok herr

theorem attempt_bind {f : Except Failure α → SessionM β} (h : Holds g p J prog Q ss tr s)
    (hf : ∀ x ss tr s, J (moment p tr s) → Q x ss tr s → Holds g p J (f x) R ss tr s) :
    Holds g p J (SessionM.attempt prog >>= f) R ss tr s :=
  Upholds.attempt_bind h hf

theorem ofProgram_bind {prog : Program α} {f : α → SessionM β}
    {Q : Except Failure α → List Event → Site → Prop}
    (h : prog.run.Keeps g.law (fun tr s => J (moment p tr s)) Q tr s)
    (hok : ∀ a tr s, J (moment p tr s) → Q (.ok a) tr s → Holds g p J (f a) R ss tr s)
    (herr : ∀ e tr s, J (moment p tr s) → Q (.error e) tr s → R (.error e) ss tr s) :
    Holds g p J (SessionM.ofProgram prog >>= f) R ss tr s :=
  Upholds.ofProgram_bind h hok herr

end Holds

/-! ## §4. Commands. -/

/-- What a command for an operation comes to. -/
def outcome (operation : Operation) (folder : Option String) :
    Except Fault Response → Except Failure (List Item)
  | .error (.connection reason) => .error (.transport (.broken operation folder reason))
  | .error (.foreign reason) => .error (.foreign reason)
  | .ok r =>
    if r.status == okStatus then .ok r.items
    else .error (.transport (.refused operation folder r.status (detailOf r.items)))

theorem outcome_eq_ok {operation : Operation} {folder : Option String}
    {r : Except Fault Response} {items : List Item} :
    outcome operation folder r = .ok items ↔ accepted? r = some items := by
  unfold outcome accepted?
  rcases r with (_ | _) | r <;> grind

theorem accepted?_eq_none_of_outcome {operation : Operation} {folder : Option String}
    {r : Except Fault Response} {f : Failure} (h : outcome operation folder r = .error f) :
    accepted? r = none := by
  cases ha : accepted? r with
  | none => rfl
  | some items => rw [outcome_eq_ok.2 ha] at h; cases h

/-- Without faults that nobody expects, a command fails with a transport error. -/
theorem exists_transport_of_outcome {operation : Operation} {folder : Option String}
    {r : Except Fault Response} {f : Failure} (h : outcome operation folder r = .error f)
    (hr : ∀ reason, r ≠ .error (.foreign reason)) : ∃ e, f = .transport e := by
  rcases r with (reason | reason) | r
  · exact ⟨_, (Except.error.inj h).symm⟩
  · exact absurd rfl (hr reason)
  · simp only [outcome] at h
    split at h
    · cases h
    · exact ⟨_, (Except.error.inj h).symm⟩

theorem command_run (operation : Operation) (folder : Option String) (c : Imap.Command)
    (ss : Session) :
    (command operation folder c).run.run ss
      = .ask (.imap c) fun r => .pure (outcome operation folder r, ss) := by
  unfold command
  rw [SessionM.run_bind]
  show Dialogue.ask _ _ = _
  congr 1
  funext r
  rcases r with (_ | _) | r
  · rfl
  · rfl
  · show StateT.run (ExceptT.run (if _ then _ else _)) ss = Dialogue.pure (if _ then _ else _, _)
    split <;> rfl

theorem attempt_run {α : Type} (prog : SessionM α) (ss : Session) :
    (SessionM.attempt prog).run.run ss = (prog.run.run ss).bind fun x => .pure (.ok x.1, x.2) :=
  rfl

theorem usualSentFolder_run (ss : Session) :
    usualSentFolder.run.run ss = .pure (usualSentFolderOf ss.host, ss) := by
  unfold usualSentFolder usualSentFolderOf
  rw [SessionM.run_bind]
  show (SessionM.ofExcept _ _ >>= _ : SessionM String).run.run ss = _
  rw [SessionM.run_bind]
  cases ss.host.textFor "lower" <;> rfl

theorem listFolders_run (ss : Session) :
    listFolders.run.run ss = .ask (.imap .list) fun r => .pure
      ((outcome .list none r).bind fun items => (readFolders items).mapError .wire, ss) := by
  unfold listFolders
  rw [SessionM.run_bind, command_run]
  show Dialogue.ask _ _ = _
  congr 1
  funext r
  show Dialogue.bind (.pure (outcome .list none r, ss)) _ = _
  cases outcome .list none r with
  | error e => rfl
  | ok items =>
    show (SessionM.ofExcept Failure.wire (readFolders items)).run.run ss
      = Dialogue.pure ((readFolders items).mapError .wire, ss)
    cases readFolders items <;> rfl

/-- **The search for the sent folder asks LIST**, and the answer and the host decide. -/
theorem findSentFolder_run (ss : Session) :
    findSentFolder.run.run ss = .ask (.imap .list) fun r => .pure (match r with
      | .error (.foreign reason) => .error (.foreign reason)
      | r => sentFolderOf ss.host r, ss) := by
  unfold findSentFolder
  rw [SessionM.run_bind, attempt_run, listFolders_run]
  show Dialogue.ask _ _ = _
  congr 1
  funext r
  rcases r with (reason | reason) | r
  · exact usualSentFolder_run ss
  · rfl
  · by_cases hok : r.status = okStatus
    · have ha : accepted? (.ok r) = some r.items := by simp [accepted?, hok]
      have ho : outcome .list none (.ok r) = .ok r.items := by simp [outcome, hok]
      simp only [ho, sentFolderOf, ha, Except.bind]
      cases readFolders r.items with
      | error e => rfl
      | ok folders =>
        simp only [Except.mapError, Dialogue.bind]
        cases folders.find? fun f => f.attributes.contains sentAttribute with
        | some f => rfl
        | none => exact usualSentFolder_run ss
    · have ha : accepted? (.ok r) = none := by simp [accepted?, hok]
      obtain ⟨e, ho⟩ : ∃ e, outcome .list none (.ok r) = .error (.transport e) := by
        simp [outcome, hok]
      simp only [ho, sentFolderOf, ha]
      exact usualSentFolder_run ss

/-- A command and what follows it: it is accepted with some items, or it fails. -/
theorem Upholds.command_bind {σ α : Type} {law : Law σ} {I : List Event → σ → Prop}
    {operation : Operation} {folder : Option String} {c : Imap.Command}
    {f : List Item → SessionM α} {Q : Except Failure α → Session → List Event → σ → Prop}
    {ss : Session} {tr : List Event} {s : σ} (hI : I tr s)
    (hok : ∀ r s' items, law s (.imap c) r s' → accepted? r = some items →
      Upholds law I (f items) Q ss (tr ++ [⟨.imap c, r⟩]) s')
    (herr : ∀ r s' e, law s (.imap c) r s' → outcome operation folder r = .error e →
      I (tr ++ [⟨.imap c, r⟩]) s' ∧ Q (.error e) ss (tr ++ [⟨.imap c, r⟩]) s') :
    Upholds law I (command operation folder c >>= f) Q ss tr s := by
  unfold Upholds
  rw [SessionM.run_bind, command_run]
  refine ⟨hI, fun r s' hr => ?_⟩
  show (Dialogue.bind (.pure _) _).Keeps _ _ _ _ _
  cases ho : outcome operation folder r with
  | ok items => exact hok r s' items hr (outcome_eq_ok.1 ho)
  | error e => exact herr r s' e hr ho

/-- Why no sent folder is found: LIST failed in a way that nobody expects, its answer cannot
be read, or the host is no text. -/
def Unfound (host : Json) (r : Except Imap.Fault Response) : Prop :=
  (∃ reason, r = .error (.foreign reason)) ∨
    (∃ items, accepted? r = some items ∧ ∀ folders, readFolders items ≠ .ok folders) ∨
    ∀ h, host ≠ .text h

theorem unfound_of_sentFolder {host : Json} {r : Except Imap.Fault Response} {f : Failure}
    (h : sentFolderOf host r = .error f) : Unfound host r := by
  have husual : usualSentFolderOf host = .error f → ∀ t, host ≠ .text t := by
    intro h t ht
    rw [ht] at h
    cases h
  unfold sentFolderOf at h
  split at h
  · exact .inr (.inr (husual h))
  next items ha =>
    split at h
    next e he =>
      exact .inr (.inl ⟨items, ha, fun folders hf => by rw [he] at hf; cases hf⟩)
    next folders hf =>
      split at h
      · cases h
      · exact .inr (.inr (husual h))

/-- The search for the sent folder finds the one to which LIST leads, or there is a reason. -/
theorem Upholds.findSentFolder {σ : Type} {law : Law σ} {I : List Event → σ → Prop}
    {Q : Except Failure String → Session → List Event → σ → Prop} {ss : Session}
    {tr : List Event} {s : σ} (hI : I tr s)
    (hkeep : ∀ r s', law s (.imap .list) r s' → I (tr ++ [⟨.imap .list, r⟩]) s')
    (hok : ∀ r s' name, law s (.imap .list) r s' → sentFolderOf ss.host r = .ok name →
      Q (.ok name) ss (tr ++ [⟨.imap .list, r⟩]) s')
    (herr : ∀ r s' f, law s (.imap .list) r s' → Unfound ss.host r →
      Q (.error f) ss (tr ++ [⟨.imap .list, r⟩]) s') :
    Upholds law I findSentFolder Q ss tr s := by
  unfold Upholds
  rw [findSentFolder_run]
  refine ⟨hI, fun r s' hr => ⟨hkeep r s' hr, ?_⟩⟩
  have hsought : ∀ x, sentFolderOf ss.host r = x → Q x ss (tr ++ [⟨.imap .list, r⟩]) s' := by
    intro x hx
    cases x with
    | ok name => exact hok r s' name hr hx
    | error f => exact herr r s' f hr (unfound_of_sentFolder hx)
  rcases r with (reason | reason) | r
  · exact hsought _ rfl
  · exact herr _ s' _ hr (.inl ⟨reason, rfl⟩)
  · exact hsought _ rfl

/-- A command to a server of a regime and what follows it.  It is accepted with some
items, or it fails with a transport error. -/
theorem Holds.command_bind {α : Type} {g : Regime} {p : Int} {J : Moment → Prop}
    {operation : Operation} {folder : Option String} {c : Imap.Command}
    {f : List Item → SessionM α} {Q : Outcome α} {ss : Session} {tr : List Event} {s : Site}
    (hJ : J (moment p tr s))
    (hok : ∀ r s' items, g.law s (.imap c) r s' → accepted? r = some items →
      Holds g p J (f items) Q ss (tr ++ [⟨.imap c, r⟩]) s')
    (herr : ∀ r s' e, g.law s (.imap c) r s' → accepted? r = none →
      J (moment p (tr ++ [⟨.imap c, r⟩]) s') ∧
        Q (.error (.transport e)) ss (tr ++ [⟨.imap c, r⟩]) s') :
    Holds g p J (command operation folder c >>= f) Q ss tr s := by
  refine Upholds.command_bind hJ hok fun r s' e hr ho => ?_
  obtain ⟨e, rfl⟩ := exists_transport_of_outcome ho hr.1
  exact herr r s' e hr (accepted?_eq_none_of_outcome ho)

end Mailroom.Scan
