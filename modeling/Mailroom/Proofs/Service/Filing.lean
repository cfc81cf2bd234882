import Mailroom.Proofs.Imap.Obliging
import Mailroom.Proofs.Imap.Vocabulary
import Mailroom.Service
/-!
  Mailroom.Proofs.Service.Filing
  ────────────────────────────────
  **WHAT MAY HAPPEN WHILE A COPY IS FILED.**

  A copy of a letter is filed in a session of its own.  A server may refuse it or break off
  at any point, and that counts for nothing.  What does count are answers that are not
  `Foreseen`: a fault of another kind, or an answer to LIST from which no sent folder can
  be told.

      Led                  — an answer to LIST from which a sent folder can be told
      keeps_file           — filing comes to a failure that counts exactly if some answer
                             was not foreseen, and says APPEND once at most
      file_ends            — what that says of a whole run
-/
namespace Mailroom.Service

open Mailroom.Imap Mailroom.Scan Mailroom.Text
open Mailroom.Directory (Mailbox)

/-! ## §1. Foreseen answers. -/

/-- **A sent folder can be told** from the answer to LIST: each literal in it comes with its
line, and either a folder is marked as the sent one, or the host is a text, for which
there is a usual name. -/
structure Led (host : Json) (r : Except Fault Response) : Prop where
  groups : ∀ items, accepted? r = some items → ∀ parts, Item.group parts ∈ items →
    2 ≤ parts.length
  named : (∃ h, host = .text h) ∨ ∃ items folders, accepted? r = some items ∧
    readFolders items = .ok folders ∧ ∃ f ∈ folders, sentAttribute ∈ f.attributes

/-- An answer that filing a copy counts with. -/
def Foreseen (host : Json) : Event → Prop
  | ⟨.connect _, r⟩ => ∀ reason, r ≠ .error (.foreign reason)
  | ⟨.imap c, r⟩ => (∀ reason, r ≠ .error (.foreign reason)) ∧ (c = .list → Led host r)
  | _ => True

theorem lineOf?_ok_iff {item : Item} :
    (∃ line, lineOf? item = .ok line) ↔ ∀ parts, item = .group parts → 2 ≤ parts.length := by
  rcases item with _ | bs | (_ | ⟨header, _ | ⟨name, parts⟩⟩) <;> simp [lineOf?]

/-- A list of folders can be read if no group in it is short. -/
theorem readFolders_ok_iff {items : List Item} :
    (∃ folders, readFolders items = .ok folders) ↔
      ∀ parts, Item.group parts ∈ items → 2 ≤ parts.length := by
  have hlines : (∃ folders, readFolders items = .ok folders) ↔
      ∃ lines, items.mapM lineOf? = .ok lines := by
    unfold readFolders
    cases items.mapM lineOf? with
    | error e => exact ⟨by rintro ⟨_, ⟨⟩⟩, by rintro ⟨_, ⟨⟩⟩⟩
    | ok lines => exact ⟨fun _ => ⟨_, rfl⟩, fun _ => ⟨_, rfl⟩⟩
  rw [hlines, exists_mapM_iff]
  constructor
  · intro h parts hparts
    exact lineOf?_ok_iff.1 (h _ hparts) parts rfl
  · intro h item hitem
    refine lineOf?_ok_iff.2 fun parts hparts => h parts ?_
    rwa [hparts] at hitem

theorem usualSentFolderOf_ok_iff {host : Json} :
    (∃ folder, usualSentFolderOf host = .ok folder) ↔ ∃ h, host = .text h := by
  cases host <;> simp [usualSentFolderOf, Json.textFor]

/-- The search for the sent folder finds one exactly if it can be told. -/
theorem led_iff {host : Json} {r : Except Fault Response} :
    Led host r ↔ ∃ folder, sentFolderOf host r = .ok folder := by
  cases hr : accepted? r with
  | none =>
    simp only [sentFolderOf, hr, usualSentFolderOf_ok_iff]
    refine ⟨fun h => h.named.resolve_right ?_, fun h => ⟨?_, .inl h⟩⟩
    · rintro ⟨items, folders, haccepted, -⟩
      cases hr.symm.trans haccepted
    · intro items haccepted
      cases hr.symm.trans haccepted
  | some items =>
    cases hfolders : readFolders items with
    | error e =>
      simp only [sentFolderOf, hr, hfolders]
      refine ⟨fun h => ?_, by rintro ⟨_, ⟨⟩⟩⟩
      obtain ⟨folders, hok⟩ := readFolders_ok_iff.2 (h.groups items hr)
      cases hfolders.symm.trans hok
    | ok folders =>
      have hgroups : ∀ items', accepted? r = some items' → ∀ parts, Item.group parts ∈ items' →
          2 ≤ parts.length := by
        intro items' haccepted
        cases hr.symm.trans haccepted
        exact readFolders_ok_iff.1 ⟨folders, hfolders⟩
      simp only [sentFolderOf, hr, hfolders]
      cases hfound : folders.find? fun f => f.attributes.contains sentAttribute with
      | some f =>
        have hmarked : sentAttribute ∈ f.attributes := by simpa using List.find?_some hfound
        exact ⟨fun _ => ⟨_, rfl⟩, fun _ => ⟨hgroups,
          .inr ⟨items, folders, hr, hfolders, f, List.mem_of_find?_eq_some hfound, hmarked⟩⟩⟩
      | none =>
        simp only [usualSentFolderOf_ok_iff]
        refine ⟨fun h => h.named.resolve_right ?_, fun h => ⟨hgroups, .inl h⟩⟩
        rintro ⟨items', folders', haccepted, hfolders', f, hf, hmarked⟩
        cases hr.symm.trans haccepted
        cases hfolders.symm.trans hfolders'
        simpa [hmarked] using List.find?_eq_none.1 hfound f hf

/-! ## §2. Failures that count for nothing. -/

section

variable {α : Type} {host : Json} {tr : List Event} {ev : Event}

/-- A failure of a server to do its part. -/
def Excused : Failure → Prop
  | .transport _ => True
  | _ => False

/-- An outcome that sending passes over: it worked, or a server did not do its part. -/
def PassedOver : Except Failure α → Prop
  | .ok _ => True
  | .error f => Excused f

/-- Every answer so far was foreseen. -/
def Calm (host : Json) (tr : List Event) : Prop := ∀ ev ∈ tr, Foreseen host ev

/-- The outcome tells whether every answer was foreseen. -/
def Tells (host : Json) (x : Except Failure α) (tr : List Event) : Prop :=
  PassedOver x ↔ Calm host tr

theorem Calm.nil : Calm host [] := List.forall_mem_nil _

theorem calm_concat : Calm host (tr ++ [ev]) ↔ Calm host tr ∧ Foreseen host ev := by
  simp [Calm, or_imp, forall_and]

theorem Calm.tells {x : Except Failure α} (h : Calm host tr)
    (hx : PassedOver x ↔ Foreseen host ev) : Tells host x (tr ++ [ev]) := by
  rw [Tells, calm_concat, hx]
  exact ⟨fun hev => ⟨h, hev⟩, fun h => h.2⟩

/-- A question that worked. -/
theorem Calm.concat (h : Calm host tr) (hev : Foreseen host ev) : Calm host (tr ++ [ev]) :=
  calm_concat.2 ⟨h, hev⟩

theorem Tells.calm {a : α} (h : Tells host (.ok a : Except Failure α) tr) : Calm host tr :=
  h.1 trivial

theorem Calm.ok (h : Calm host tr) (a : α) : Tells host (.ok a : Except Failure α) tr :=
  ⟨fun _ => h, fun _ => trivial⟩

end

/-! ## §3. Opening a session and leaving it. -/

section

variable {σ : Type} {law : Law σ} {host : Json} {tr : List Event} {s : σ}

/-- What a fault while connecting comes to is passed over exactly if it was foreseen. -/
theorem passedOver_connectFailure (e : Endpoint) (fault : Fault) :
    PassedOver (.error (connectFailure e fault) : Except Failure Unit) ↔
      ∀ reason, fault ≠ .foreign reason := by
  cases fault <;> simp [connectFailure, PassedOver, Excused]

theorem keeps_connect_tells (e : Endpoint) (h : Calm host tr) :
    (connect e).run.Keeps law (fun _ _ => True) (fun x tr' _ => Tells host x tr') tr s := by
  unfold connect
  refine keeps_ask_bind trivial fun r s₁ _ => ?_
  match r with
  | .error fault =>
    refine ⟨trivial, h.tells ((passedOver_connectFailure e fault).trans ?_)⟩
    simp [Foreseen]
  | .ok capabilities =>
    have hopen : Calm host (tr ++ [⟨.connect e, .ok capabilities⟩]) := h.concat (by simp [Foreseen])
    dsimp only
    split
    · refine keeps_ask_bind trivial fun r s₂ _ => ?_
      match r with
      | .error fault =>
        refine ⟨trivial, hopen.tells ((passedOver_connectFailure e fault).trans ?_)⟩
        simp [Foreseen]
      | .ok r => exact ⟨trivial, (hopen.concat (by simp [Foreseen])).ok _⟩
    · exact ⟨trivial, hopen.ok _⟩

theorem keeps_login_tells (m : Mailbox) (e : Endpoint) (h : Calm host tr) :
    (login m e).run.Keeps law (fun _ _ => True) (fun x tr' _ => Tells host x tr') tr s := by
  unfold login
  refine keeps_ask_bind trivial fun r s₁ _ => ?_
  match r with
  | .ok r => exact ⟨trivial, (h.concat (by simp [Foreseen])).ok _⟩
  | .error (.foreign reason) => exact ⟨trivial, h.tells (by simp [Foreseen, PassedOver, Excused])⟩
  | .error (.connection reason) =>
    have hrefused : Calm host (tr ++ [⟨.imap (.login m.imap.user m.imap.password),
        .error (.connection reason)⟩]) := h.concat (by simp [Foreseen])
    refine keeps_ask_bind trivial fun r s₂ _ => ?_
    match r with
    | .error (.foreign reason) => exact ⟨trivial, hrefused.tells (by simp [Foreseen, PassedOver, Excused])⟩
    | .error (.connection reason) =>
      exact ⟨trivial, hrefused.tells (by simp [Foreseen, PassedOver, Excused])⟩
    | .ok r => exact ⟨trivial, hrefused.tells (by simp [Foreseen, PassedOver, Excused])⟩

theorem keeps_start_tells (t : Transport) (m : Mailbox) (h : Calm host tr) :
    (t.start m).run.Keeps law (fun _ _ => True) (fun x tr' _ => Tells host x tr' ∧
      ∀ ss, x = .ok ss → ss.host = (t.endpoint m).host) tr s := by
  unfold Transport.start
  refine keeps_program_bind (keeps_connect_tells _ h) ?_ fun _ _ _ _ h => ⟨h, nofun⟩
  intro _ tr₁ s₁ _ h₁
  refine keeps_program_bind (keeps_login_tells m _ h₁.calm) ?_ fun _ _ _ _ h => ⟨h, nofun⟩
  intro _ tr₂ s₂ _ h₂
  refine ⟨trivial, h₂.calm.ok _, fun ss hss => ?_⟩
  cases hss
  rfl

/-- Leaving a session says one thing only, and fails if the answer to that is not foreseen. -/
theorem upholds_close_tells (host : Json) {ss : Session} :
    Upholds law (fun _ _ => True) close (fun x _ tr' _ => ∃ r,
      tr' = tr ++ [⟨.imap .logout, r⟩] ∧
        (x = .ok () ∧ Foreseen host ⟨.imap .logout, r⟩ ∨
          ¬ PassedOver x ∧ ¬ Foreseen host ⟨.imap .logout, r⟩)) ss tr s := by
  unfold close
  refine Upholds.ask_bind trivial fun r s₁ _ => Upholds.update_bind ?_
  match r with
  | .ok r => exact Upholds.pure trivial ⟨_, rfl, .inl ⟨rfl, by simp [Foreseen]⟩⟩
  | .error (.connection reason) =>
    exact Upholds.pure trivial ⟨_, rfl, .inl ⟨rfl, by simp [Foreseen]⟩⟩
  | .error (.foreign reason) =>
    exact Upholds.throw trivial ⟨_, rfl, .inr ⟨by simp [PassedOver, Excused], by simp [Foreseen]⟩⟩

end

/-! ## §4. Copies. -/

/-- What an APPEND is to file: the folder, the flags and the octets. -/
def copy? : Event → Option (String × String × Octets)
  | ⟨.imap (.append folder flags raw), _⟩ => some (folder, flags, raw)
  | _ => none

/-- The copies that were to be filed. -/
def copies (tr : List Event) : List (String × String × Octets) := tr.filterMap copy?

/-- A question that is not to file anything. -/
def FilesNothing (c : Mailroom.Command) : Prop := ∀ r, copy? ⟨c, r⟩ = none

theorem filesNothing_of_threshold {c : Mailroom.Command} (h : OnThreshold c) : FilesNothing c := by
  intro r
  unfold OnThreshold at h
  split at h <;> first | rfl | exact h.elim

theorem filesNothing_of_reading {c : Mailroom.Command} (h : Reading c) : FilesNothing c := by
  intro r
  unfold Reading at h
  split at h <;> first | rfl | exact h.elim

theorem copies_append (tr tr' : List Event) : copies (tr ++ tr') = copies tr ++ copies tr' :=
  List.filterMap_append

theorem copies_concat {tr : List Event} {c : Mailroom.Command} {r : c.Answer}
    (h : FilesNothing c) : copies (tr ++ [⟨c, r⟩]) = copies tr := by
  simp [copies, h r]

/-- At most one copy of a letter, marked as seen. -/
def OneCopy (raw : Octets) (tr : List Event) : Prop :=
  copies tr = [] ∨ ∃ folder, copies tr = [(quotedName folder, seenFlags, raw)]

/-! ## §5. Filing. -/

section

variable {σ : Type} {law : Law σ} {host : Json} {ss : Session} {tr : List Event} {s : σ}

theorem not_excused_of_sentFolderOf {r : Except Fault Response} {f : Failure}
    (h : sentFolderOf host r = .error f) : ¬ Excused f := by
  have husual : usualSentFolderOf host = .error f → ¬ Excused f := by
    intro h
    unfold usualSentFolderOf at h
    split at h
    · cases h
    · cases h
      exact id
  unfold sentFolderOf at h
  split at h
  · exact husual h
  · split at h
    · cases h
      exact id
    · split at h
      · cases h
      · exact husual h

theorem passedOver_sentFolderOf (r : Except Fault Response) :
    PassedOver (sentFolderOf host r) ↔ Led host r := by
  rw [led_iff]
  cases hx : sentFolderOf host r with
  | ok folder => exact ⟨fun _ => ⟨folder, rfl⟩, fun _ => trivial⟩
  | error f => exact ⟨fun h => (not_excused_of_sentFolderOf hx h).elim, by rintro ⟨_, ⟨⟩⟩⟩

theorem upholds_findSentFolder_tells (hhost : ss.host = host) (h : Calm host tr) :
    Upholds law (fun _ _ => True) findSentFolder (fun x _ tr' _ => Tells host x tr') ss tr s := by
  unfold Upholds
  rw [findSentFolder_run, hhost]
  refine ⟨trivial, fun r s' _ => ⟨trivial, h.tells ?_⟩⟩
  match r with
  | .error (.foreign reason) => simp [Foreseen, PassedOver, Excused]
  | .error (.connection reason) => simp [Foreseen, passedOver_sentFolderOf]
  | .ok r => simp [Foreseen, passedOver_sentFolderOf]

/-- Whatever name is resolved.  The program has a name of its own, as otherwise Lean tries to
run it on a name that is open. -/
theorem upholds_resolve_tells {name : String} {prog : SessionM String}
    (hprog : resolve name = prog) (hhost : ss.host = host) (h : Calm host tr) :
    Upholds law (fun _ _ => True) prog (fun x _ tr' _ => Tells host x tr') ss tr s := by
  subst hprog
  unfold resolve
  dsimp only
  cases isWord inbox (trim name) with
  | true =>
    rw [if_pos rfl]
    exact Upholds.pure trivial (h.ok _)
  | false =>
    rw [if_neg Bool.false_ne_true]
    cases isWord sent (trim name) with
    | true =>
      rw [if_pos rfl]
      refine Upholds.session_bind ?_
      cases ss.sentFolder with
      | some folder => exact Upholds.pure trivial (h.ok _)
      | none =>
        refine Upholds.bind (upholds_findSentFolder_tells hhost h) ?_ fun _ _ _ _ _ h => h
        exact fun _ _ _ _ _ h => Upholds.update_bind (Upholds.pure trivial (h.calm.ok _))
    | false =>
      rw [if_neg Bool.false_ne_true]
      exact Upholds.pure trivial (h.ok _)

theorem excused_outcome {operation : Mail.Operation} {folder : Option String}
    {r : Except Fault Response} {f : Failure} (h : outcome operation folder r = .error f) :
    Excused f ↔ ∀ reason, r ≠ .error (.foreign reason) := by
  constructor
  · rintro hexcused reason rfl
    cases h
    exact hexcused
  · intro hr
    obtain ⟨e, rfl⟩ := exists_transport_of_outcome h hr
    trivial

theorem upholds_append_tells {folder : String} {raw : Octets} (h : Calm host tr)
    (hnone : copies tr = []) :
    Upholds law (fun _ _ => True) (append folder raw seenFlags)
      (fun x _ tr' _ => Tells host x tr' ∧ OneCopy raw tr') ss tr s := by
  have hone : ∀ r, OneCopy raw (tr ++ [⟨.imap (.append (quotedName folder) seenFlags raw), r⟩]) := by
    intro r
    refine .inr ⟨folder, ?_⟩
    rw [copies_append, hnone]
    rfl
  unfold append
  refine Upholds.command_bind trivial ?_ ?_
  · intro r s' items _ haccepted
    have hforeseen : ∀ reason, r ≠ .error (.foreign reason) := by
      rintro reason rfl
      cases haccepted
    exact Upholds.pure trivial ⟨(h.concat (by simpa [Foreseen] using hforeseen)).ok _, hone r⟩
  · intro r s' f _ hf
    refine ⟨trivial, h.tells ?_, hone r⟩
    simp [Foreseen, PassedOver, excused_outcome hf]

/-- **Filing a copy** tells whether every answer was foreseen, and says APPEND once at most. -/
theorem keeps_file (service : Service) (m : Mailbox) (raw : Octets) :
    (service.file m raw).run.Keeps law (fun _ _ => True) (fun x tr' _ =>
      Tells (service.transport.endpoint m).host x tr' ∧ OneCopy raw tr') [] s := by
  have hthreshold : ∀ tr (s : σ) c r s', OnThreshold c → law s c r s' → copies tr = [] →
      copies (tr ++ [⟨c, r⟩]) = [] :=
    fun _ _ _ _ _ hc _ h => (copies_concat (filesNothing_of_threshold hc)).trans h
  have hreading : ∀ tr (s : σ) c r s', Reading c → law s c r s' → copies tr = [] →
      copies (tr ++ [⟨c, r⟩]) = [] :=
    fun _ _ _ _ _ hc _ h => (copies_concat (filesNothing_of_reading hc)).trans h
  unfold Service.file Transport.within
  refine keeps_program_bind ((keeps_start_tells service.transport m .nil).posed
    (poses_start _ _) hthreshold rfl) ?_ fun _ _ _ _ h => ⟨h.1.1, .inl h.2⟩
  intro ss tr₁ s₁ _ h₁
  obtain ⟨⟨htold, hhost⟩, hnone⟩ := h₁
  generalize hresolve : resolve sent = resolving
  have hwork : Upholds law (fun _ _ => True) (resolving >>= fun folder => append folder raw seenFlags)
      (fun x _ tr' _ => Tells (service.transport.endpoint m).host x tr' ∧ OneCopy raw tr')
      ss tr₁ s₁ := by
    have hasks : Asks Reading resolving := hresolve ▸ Asks.resolve sent
    have hresolved : Upholds law (fun _ _ => True) resolving (fun x _ tr' _ =>
        Tells (service.transport.endpoint m).host x tr' ∧ copies tr' = []) ss tr₁ s₁ :=
      Dialogue.Keeps.posed (upholds_resolve_tells hresolve (hhost ss rfl) htold.calm)
        (hasks.poses ss) hreading hnone
    refine Upholds.bind hresolved ?_ fun _ _ _ _ _ h => ⟨h.1, .inl h.2⟩
    exact fun folder ss₂ tr₂ s₂ _ h₂ => upholds_append_tells h₂.1.calm h₂.2
  refine keeps_lift_bind (Dialogue.Keeps.mono hwork ?_)
  intro last tr₂ s₂ _ h₂
  obtain ⟨x, ss₂⟩ := last
  obtain ⟨htold₂, hone⟩ := h₂
  -- The session is left whatever came of the work.
  refine keeps_lift_bind (Dialogue.Keeps.mono
    (upholds_close_tells (service.transport.endpoint m).host) ?_)
  intro last tr₃ s₃ _ h₃
  obtain ⟨closed, ss₃⟩ := last
  obtain ⟨r, rfl, hclosed⟩ := h₃
  have hone₃ : OneCopy raw (tr₂ ++ [⟨.imap .logout, r⟩]) := by
    rwa [OneCopy, copies_concat (filesNothing_of_threshold (c := .imap .logout) trivial)]
  rcases hclosed with ⟨rfl, hev⟩ | ⟨hfailed, hev⟩
  · have htold₃ : Tells (service.transport.endpoint m).host x (tr₂ ++ [⟨.imap .logout, r⟩]) := by
      rw [Tells, calm_concat, and_iff_left hev]
      exact htold₂
    cases x <;> exact ⟨trivial, htold₃, hone₃⟩
  · cases closed with
    | ok _ => exact (hfailed trivial).elim
    | error f => exact ⟨trivial, iff_of_false hfailed fun h => hev (calm_concat.1 h).2, hone₃⟩

theorem file_ends {service : Service} {m : Mailbox} {raw : Octets} {w t : σ} {x : Except Failure Unit}
    (h : Dialogue.Ends law (service.file m raw).run w tr x t) :
    Tells (service.transport.endpoint m).host x tr ∧ OneCopy raw tr :=
  (keeps_file service m raw).ends h

end

end Mailroom.Service
