import Mailroom.Proofs.Dialogue.Range
import Mailroom.Proofs.Scan.Account
/-!
  Mailroom.Proofs.Imap.Vocabulary
  ────────────────────────────────
  **WHAT THE PROGRAMS OF A SESSION CAN SAY.**

  A session works in the folders of its mailbox: it reads when it selects and lists them,
  searches and fetches, and it writes when it stores flags and files messages.  It
  neither opens a connection nor leaves one, as that is done around it, and it asks
  nobody but its server.  `Asks K prog` says that every question of `prog` is of the
  kind `K`, whatever the session knows.
-/
namespace Mailroom.Imap

open Mailroom.Mail Mailroom.Directory

/-! ## §1. Programs of a session. -/

/-- Whatever a session knows and is answered, each of its questions is of a kind. -/
structure Asks {α : Type} (K : Mailroom.Command → Prop) (prog : SessionM α) : Prop where
  poses : ∀ ss, (prog.run.run ss).Poses K

namespace Asks

variable {α β ε : Type} {K : Mailroom.Command → Prop} {prog : SessionM α}

theorem mono {K' : Mailroom.Command → Prop} (h : Asks K prog) (hK : ∀ c, K c → K' c) :
    Asks K' prog :=
  ⟨fun ss => (h.poses ss).mono hK⟩

theorem bind {f : α → SessionM β} (h : Asks K prog) (hf : ∀ a, Asks K (f a)) :
    Asks K (prog >>= f) := by
  constructor
  intro ss
  rw [Scan.SessionM.run_bind]
  refine (h.poses ss).bind fun x => ?_
  obtain ⟨x | a, ss'⟩ := x
  · trivial
  · exact (hf a).poses ss'

theorem pure (a : α) : Asks K (pure a : SessionM α) := ⟨fun _ => trivial⟩

theorem throw (f : Failure) : Asks K (throw f : SessionM α) := ⟨fun _ => trivial⟩

theorem session : Asks K SessionM.session := ⟨fun _ => trivial⟩

theorem update (u : Session → Session) : Asks K (SessionM.update u) := ⟨fun _ => trivial⟩

theorem ofExcept (failure : ε → Failure) (x : Except ε α) :
    Asks K (SessionM.ofExcept failure x) := by
  constructor
  intro ss
  cases x <;> trivial

theorem attempt (h : Asks K prog) : Asks K (SessionM.attempt prog) :=
  ⟨fun ss => Dialogue.Poses.bind (d := prog.run.run ss) (h.poses ss) fun _ => trivial⟩

theorem ofProgram {prog : Program α} (h : prog.run.Poses K) : Asks K (SessionM.ofProgram prog) :=
  ⟨fun _ => Dialogue.Poses.bind (d := prog.run) h fun _ => trivial⟩

theorem command {operation : Operation} {folder : Option String} {c : Command}
    (h : K (.imap c)) : Asks K (command operation folder c) := by
  constructor
  intro ss
  rw [Scan.command_run]
  exact ⟨h, fun _ => trivial⟩

end Asks

/-! ## §2. Work in folders. -/

/-- Reading in the folders of a mailbox. -/
def Reading : Mailroom.Command → Prop
  | .imap (.select _ _) | .imap .list | .imap (.search _) | .imap (.fetch _) => True
  | _ => False

/-- Work in the folders of a mailbox, reading or writing. -/
def InFolders : Mailroom.Command → Prop
  | .imap (.append _ _ _) | .imap (.store _ _ _) => True
  | c => Reading c

theorem Reading.inFolders {c : Mailroom.Command} (h : Reading c) : InFolders c := by
  unfold InFolders
  split
  · trivial
  · trivial
  · exact h

namespace Asks

/-! Each operation asks what it is made of: `K` is a kind of these questions. -/

section

variable {K : Mailroom.Command → Prop} {folder name : String} {readonly : Bool} {limit page : Int}

theorem select_of (h : K (.imap (.select (quotedName folder) readonly))) :
    Asks K (select folder readonly) := by
  unfold Imap.select
  refine session.bind fun ss => ?_
  split
  · exact pure ()
  · exact (command h).bind fun _ => update _

theorem search_of {c : Criterion} (h : K (.imap (.search c))) : Asks K (search folder c) :=
  (command h).bind fun _ => ofExcept _ _

theorem fetch_of {uids : List Int} (h : K (.imap (.fetch uids))) : Asks K (fetch folder uids) := by
  unfold Imap.fetch
  split
  · exact pure []
  · exact (command h).bind fun _ => (ofExcept _ _).bind fun _ => session.bind fun _ =>
      (ofExcept _ _).bind fun _ => pure _

theorem fetchPage_of (hselect : K (.imap (.select (quotedName folder) true)))
    (hsearch : K (.imap (.search .all))) (hfetch : ∀ uids, K (.imap (.fetch uids))) :
    Asks K (fetchPage folder limit page) := by
  unfold Imap.fetchPage
  refine (select_of hselect).bind fun _ => (search_of hsearch).bind fun uids => ?_
  split
  · exact throw _
  · exact (fetch_of (hfetch _)).bind fun _ => pure _

theorem fetchUnclassified_of (hselect : K (.imap (.select (quotedName folder) true)))
    (hsearch : K (.imap (.search (.unkeyword classifiedFlag))))
    (hfetch : ∀ uids, K (.imap (.fetch uids))) : Asks K (fetchUnclassified folder limit) :=
  (select_of hselect).bind fun _ => (search_of hsearch).bind fun _ => fetch_of (hfetch _)

theorem checkFlag {flag : String} : Asks K (checkFlag flag) := by
  unfold Imap.checkFlag
  split
  · exact pure ()
  · exact throw _

theorem countFlag_of {flag : String} (hselect : K (.imap (.select (quotedName folder) true)))
    (hsearch : K (.imap (.search (criterionOf flag)))) : Asks K (countFlag folder flag) :=
  checkFlag.bind fun _ => (select_of hselect).bind fun _ =>
    (search_of hsearch).bind fun _ => pure _

theorem store_of {uid : Int} {change : Change} {flag : String}
    (hselect : K (.imap (.select (quotedName folder) false)))
    (hstore : K (.imap (.store uid change flag))) : Asks K (store folder uid change flag) :=
  checkFlag.bind fun _ => (select_of hselect).bind fun _ => (command hstore).bind fun _ => pure _

theorem append_of {raw : Octets} {flags : String}
    (h : K (.imap (.append (quotedName folder) flags raw))) : Asks K (append folder raw flags) :=
  (command h).bind fun _ => pure _

theorem listFolders_of (h : K (.imap .list)) : Asks K listFolders :=
  (command h).bind fun _ => ofExcept _ _

theorem usualSentFolder : Asks K usualSentFolder :=
  session.bind fun _ => (ofExcept _ _).bind fun _ => pure _

theorem findSentFolder_of (h : K (.imap .list)) : Asks K findSentFolder := by
  unfold Imap.findSentFolder
  refine (listFolders_of h).attempt.bind fun x => ?_
  split
  · split
    · exact pure _
    · exact usualSentFolder
  · exact usualSentFolder
  · exact throw _

theorem resolve_of (h : K (.imap .list)) : Asks K (resolve name) := by
  unfold Imap.resolve
  dsimp only
  split
  · exact pure _
  · split
    · refine session.bind fun ss => ?_
      split
      · exact pure _
      · exact (findSentFolder_of h).bind fun _ => (update _).bind fun _ => pure _
    · exact pure _

end

/-! Read off these: which operations only read, and which stay in folders. -/

theorem fetchPage (folder : String) (limit page : Int) :
    Asks Reading (fetchPage folder limit page) :=
  fetchPage_of trivial trivial fun _ => trivial

theorem fetchUnclassified (folder : String) (limit : Int) :
    Asks Reading (fetchUnclassified folder limit) :=
  fetchUnclassified_of trivial trivial fun _ => trivial

theorem countFlag (folder flag : String) : Asks Reading (countFlag folder flag) :=
  countFlag_of trivial trivial

theorem store (folder : String) (uid : Int) (change : Change) (flag : String) :
    Asks InFolders (store folder uid change flag) :=
  store_of trivial trivial

theorem append (folder : String) (raw : Octets) (flags : String) :
    Asks InFolders (append folder raw flags) :=
  append_of trivial

theorem listFolders : Asks Reading listFolders := listFolders_of trivial

theorem resolve (name : String) : Asks Reading (resolve name) := resolve_of trivial

end Asks

/-! ## §3. Around a session. -/

/-- Opening a connection and leaving it. -/
def OnThreshold : Mailroom.Command → Prop
  | .connect _ | .imap .startTls | .imap (.login _ _) | .imap .logout => True
  | _ => False

theorem poses_connect (e : Endpoint) : (connect e).run.Poses OnThreshold := by
  unfold connect
  refine poses_except_bind (poses_ask trivial) fun r => ?_
  split
  · trivial
  · split
    · refine poses_except_bind (poses_ask trivial) fun r => ?_
      split <;> trivial
    · trivial

theorem poses_login (m : Mailbox) (e : Endpoint) : (login m e).run.Poses OnThreshold := by
  unfold login
  refine poses_except_bind (poses_ask trivial) fun r => ?_
  split
  · trivial
  · trivial
  · refine poses_except_bind (poses_ask trivial) fun r => ?_
    split <;> trivial

theorem poses_start (t : Transport) (m : Mailbox) : (t.start m).run.Poses OnThreshold :=
  poses_except_bind (poses_connect _) fun _ => poses_except_bind (poses_login _ _) fun _ => trivial

/-! ## §4. The directory. -/

/-- A request can ask for one place only, with pauses between. -/
theorem poses_attempts (c : Client) (endpoint : String) (params : Json) (left index : Nat) :
    (c.attempts endpoint params left index).run.Poses (Scan.Requests (c.urlOf endpoint)) := by
  have hpause : ∀ r?, (c.pause index r?).run.Poses (Scan.Requests (c.urlOf endpoint)) :=
    fun _ => poses_except_bind (poses_ask trivial) fun _ => poses_ask trivial
  induction left generalizing index with
  | zero => trivial
  | succ left ih =>
    unfold Client.attempts
    have hagain : ∀ r?, (c.pause index r? >>= fun _ =>
        c.attempts endpoint params left (index + 1)).run.Poses
          (Scan.Requests (c.urlOf endpoint)) :=
      fun r? => poses_except_bind (hpause r?) fun _ => ih _ hpause
    refine poses_except_bind (poses_ask rfl) fun r => ?_
    split
    · trivial
    · trivial
    · split
      · trivial
      · exact hagain none
    · split
      · split <;> trivial
      · split
        · exact hagain (some _)
        · trivial

theorem poses_mailbox (c : Client) (id : Int) :
    (c.mailbox id).run.Poses (Scan.Requests (c.urlOf s!"mailboxes/{id}")) :=
  poses_except_bind (poses_attempts _ _ _ _ _) fun _ => poses_ofMisuse

theorem poses_list (c : Client) : c.list.run.Poses (Scan.Requests (c.urlOf "mailboxes")) :=
  poses_except_bind (poses_attempts _ _ _ _ _) fun _ => poses_ofMisuse

end Mailroom.Imap
