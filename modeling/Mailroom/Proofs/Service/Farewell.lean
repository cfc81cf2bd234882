import Mailroom.Proofs.Imap.Parting
import Mailroom.Service
import Mailroom.Simulation.World
/-!
  Mailroom.Proofs.Service.Farewell
  ────────────────────────────────
  **NO OPERATION FORGETS TO LOG OUT, BUT FOR ONE CASE.**

  Each operation of the service goes through sessions, one after the other, and asks
  other things between them.  At its end every connection that was opened was left with
  one LOGOUT as the last word, however the operation ended, unless its STARTTLS failed:
  then the connection is open still, and nothing was said to end it.

      every_talk_ends     — for every operation, and whatever is answered
      starttls_abandoned  — a connection that no one logs out of
-/
namespace Mailroom.Service

open Mailroom.Imap Mailroom.Mail Mailroom.Scan Mailroom.Simulation
open Mailroom.Reply (judge_run)
open Mailroom.Directory (Client Mailbox)

/-! ## §1. What is asked between sessions. -/

theorem aside_of_requests {url : String} {c : Mailroom.Command} (h : Requests url c) : Aside c := by
  unfold Aside
  split
  · exact h
  · exact h
  · trivial

theorem poses_mailboxAt (c : Client) (email : String) : (c.mailboxAt email).run.Poses Aside := by
  have hrequests : ∀ url q, Requests url q → Aside q := fun _ _ => aside_of_requests
  unfold Client.mailboxAt
  refine poses_except_bind ((poses_list c).mono (hrequests _)) fun entries => ?_
  refine poses_except_bind poses_ofMisuse fun found => ?_
  split
  · exact (poses_mailbox c _).mono (hrequests _)
  · trivial

theorem poses_step (c : Smtp.Command) : (Smtp.step c).run.Poses Aside :=
  ⟨trivial, fun _ => trivial⟩

theorem poses_greet (e : Endpoint) : (Smtp.greet e).run.Poses Aside := by
  unfold Smtp.greet
  refine poses_except_bind (poses_step _) fun _ => ?_
  split
  · refine poses_except_bind (poses_step _) fun r => ?_
    split
    · exact poses_except_bind (poses_step _) fun _ => poses_except_bind (poses_step _) fun _ =>
        trivial
    · trivial
  · trivial

theorem poses_handOver (m : Mailbox) (letter : Letter) (recipients : List String) :
    (Smtp.handOver m letter recipients).run.Poses Aside :=
  poses_except_bind (poses_step _) fun _ => poses_except_bind (poses_step _) fun _ => trivial

theorem poses_leave : Smtp.leave.run.Poses Aside := by
  unfold Smtp.leave
  refine poses_except_bind (poses_lift (poses_step _)) fun r => ?_
  split <;> trivial

theorem poses_exchange (e : Endpoint) (m : Mailbox) (letter : Letter) (recipients : List String) :
    (Smtp.exchange e m letter recipients).run.Poses Aside :=
  poses_except_bind (poses_greet e) fun _ => poses_except_bind (poses_lift (poses_handOver _ _ _))
    fun _ => poses_except_bind poses_leave fun _ => trivial

theorem poses_send (sender : Smtp.Sender) (m : Mailbox) (r : Request) :
    (sender.send m r).run.Poses Aside :=
  poses_except_bind (poses_ask trivial) fun _ => poses_except_bind poses_ofExcept fun _ =>
    poses_except_bind (poses_lift (poses_exchange _ _ _ _)) fun _ => poses_ofExcept

/-! ## §2. What is asked in sessions. -/

theorem whileOpen_of_reading {c : Mailroom.Command} (h : Reading c) : WhileOpen c :=
  .inl h.inFolders

theorem asks_changeTags (change : Change) (folder : String) (uid : Int) (tags : List String) :
    Asks InFolders (changeTags change folder uid tags) := by
  induction tags with
  | nil => exact .pure ()
  | cons tag tags ih => exact (Asks.store _ _ _ _).bind fun _ => ih

theorem asks_page (folder : String) (size page : Int) :
    Asks Reading (resolve folder >>= fun resolved => fetchPage resolved size page) :=
  (Asks.resolve folder).bind fun _ => .fetchPage _ _ _

theorem asks_count (folder tag : String) :
    Asks Reading (resolve folder >>= fun resolved =>
      countFlag resolved tag >>= fun n => pure (resolved, n)) :=
  (Asks.resolve folder).bind fun _ => (Asks.countFlag _ _).bind fun _ => .pure _

theorem asks_setFlags (ws : List Write) : Asks WhileOpen (setFlags ws) := by
  induction ws with
  | nil => exact .pure ()
  | cons w ws ih => exact ((Asks.store _ _ _ _).mono fun _ => .inl).bind fun _ => ih

/-- A task asks for a judgement, which is not said on a connection, and then stores flags. -/
theorem asks_taskRun (classifier : Reply.Classifier) (sent : String) (t : Task) :
    Asks WhileOpen (t.run classifier sent) := by
  unfold Task.run
  refine (Asks.ofProgram ?_).bind fun c => ?_
  · rw [judge_run]
    exact ⟨.inr trivial, fun _ => trivial⟩
  · rw [writeOutcome_eq]
    exact (asks_setFlags _).bind fun _ => .pure _

theorem asks_work (e : Engine) (sent : String) (result : AccountResult) (ts : List Task) :
    Asks WhileOpen (e.work sent result ts) := by
  induction ts generalizing result with
  | nil => exact .pure _
  | cons t ts ih =>
    unfold Engine.work
    refine (asks_taskRun _ _ t).attempt.bind fun x => ?_
    split
    · exact ih _
    · exact .pure _

theorem asks_scanSession (e : Engine) (result : AccountResult) :
    Asks WhileOpen (e.scanSession result) := by
  unfold Engine.scanSession Engine.newReplies Engine.sentMessages
  refine Asks.bind (((Asks.fetchUnclassified _ _).bind fun _ => .pure _).mono
    fun _ => whileOpen_of_reading) fun replies => ?_
  split
  · exact .pure _
  · refine Asks.bind (((Asks.resolve sent).bind fun _ => (Asks.fetchPage _ _ _).bind fun _ =>
      .pure _).mono fun _ => whileOpen_of_reading) fun found => ?_
    exact asks_work _ _ _ _

/-! ## §3. Operations. -/

/-- What can be asked of the service. -/
inductive Operation where
  | accounts
  | folders (email : String)
  | messages (email folder : String) (limit : Option Int) (page : Int) (filter : Option String)
  | count (email folder tag : String)
  | retag (change : Change) (email folder : String) (uid : Int) (tags : List String)
  | send (email : String) (r : Request)
  | classify (address : Option String)

/-- The program of an operation; what it returns does not matter here. -/
def Operation.program (s : Service) : Operation → Program Unit
  | .accounts => do let _ ← s.accounts
  | .folders email => do let _ ← s.folders email
  | .messages email folder limit page filter => do
    let _ ← s.messages email folder limit page filter
  | .count email folder tag => do let _ ← s.count email folder tag
  | .retag change email folder uid tags => do let _ ← s.retag change email folder uid tags
  | .send email r => do let _ ← s.send email r
  | .classify address => do let _ ← s.classify address

section Operations

variable {σ α : Type} {law : Law σ}

theorem leaves_inMailbox (s : Service) (email : String) {body : SessionM α}
    (hbody : Asks WhileOpen body) : Leaves law (s.inMailbox email body).run :=
  .program_bind (.of_poses (poses_mailboxAt _ _)) fun _ => leaves_within _ _ hbody

theorem leaves_send (s : Service) (email : String) (r : Request) :
    Leaves law (s.send email r).run := by
  have hfile : ∀ m raw, Leaves law (s.file m raw).run := by
    intro m raw
    refine leaves_within _ _ (.bind ?_ fun _ => ?_)
    · exact (Asks.resolve sent).mono fun _ => whileOpen_of_reading
    · exact (Asks.append _ _ _).mono fun _ => .inl
  unfold Service.send
  refine .program_bind (.of_poses (poses_mailboxAt _ _)) fun m => ?_
  refine .program_bind (.of_poses (poses_send _ _ _)) fun delivery => ?_
  split
  · exact .pure _
  · -- The copy is filed in a session of its own, after the letter was handed over.
    refine .program_bind (.lift (hfile _ _)) fun x => ?_
    split <;> exact .pure _

theorem leaves_scanEntry (e : Engine) (entry : Directory.Entry) :
    Leaves law (e.scanEntry entry) := by
  unfold Engine.scanEntry
  refine .bind (.program_bind (.of_poses ?_) fun m => leaves_within _ _ (asks_scanSession _ _))
    fun x => ?_
  · exact (poses_mailbox _ _).mono fun _ => aside_of_requests
  · split <;> exact .pure _

/-- The accounts are gone through one after the other, by induction on them. -/
theorem leaves_scanAll (e : Engine) (entries : List Directory.Entry) :
    Leaves law (e.scanAll entries).run := by
  induction entries with
  | nil => exact .pure _
  | cons entry entries ih =>
    unfold Engine.scanAll
    refine .program_bind (.lift (leaves_scanEntry _ _)) fun pr => ?_
    refine .program_bind (.of_poses poses_ofExcept) fun r => ?_
    exact .program_bind ih fun rs => .pure _

theorem leaves_scan (e : Engine) (address : Option String) : Leaves law (e.run address).run := by
  unfold Engine.run
  refine .program_bind (.of_poses (poses_ask trivial)) fun _ => ?_
  refine .program_bind (.of_poses (poses_ask trivial)) fun _ => ?_
  refine .program_bind (.of_poses ((poses_list _).mono fun _ => aside_of_requests)) fun _ => ?_
  refine .program_bind (.of_poses poses_ofExcept) fun _ => ?_
  refine .program_bind (leaves_scanAll _ _) fun _ => ?_
  exact .program_bind (.of_poses (poses_ask trivial)) fun _ => .pure _

/-- **Every operation** leaves things settled. -/
theorem leaves_operation (s : Service) (op : Operation) : Leaves law (op.program s).run := by
  have hreading : ∀ {β : Type} {body : SessionM β}, Asks Reading body → Asks WhileOpen body :=
    fun h => h.mono fun _ => whileOpen_of_reading
  cases op with
  | accounts =>
    exact .program_bind (.of_poses ((poses_list _).mono fun _ => aside_of_requests))
      fun _ => .pure _
  | folders email =>
    exact .program_bind (leaves_inMailbox s email (hreading .listFolders)) fun _ => .pure _
  | messages email folder limit page filter =>
    refine .program_bind (.program_bind (.of_poses poses_ofExcept) fun _ => ?_) fun _ => .pure _
    exact .program_bind (leaves_inMailbox s email (hreading (asks_page _ _ _))) fun _ => .pure _
  | count email folder tag =>
    exact .program_bind (leaves_inMailbox s email (hreading (asks_count _ _))) fun _ => .pure _
  | retag change email folder uid tags =>
    have hretag : Asks WhileOpen (resolve folder >>= fun resolved =>
        changeTags change resolved uid tags >>= fun _ => pure resolved) :=
      Asks.bind (hreading (Asks.resolve folder)) fun _ =>
        .bind ((asks_changeTags _ _ _ _).mono fun _ => .inl) fun _ => .pure _
    exact .program_bind (leaves_inMailbox s email hretag) fun _ => .pure _
  | send email r => exact .program_bind (leaves_send s email r) fun _ => .pure _
  | classify address =>
    refine .program_bind ?_ fun _ => .pure _
    exact .program_bind (.of_poses poses_ofExcept) fun _ => leaves_scan _ _

/-- **Every connection is left with a word, unless it was dropped.**  After any operation,
and whatever was answered, each connection that was opened got one LOGOUT, as the last
word on it; or its last word was a STARTTLS that failed, or a LOGIN that failed in a way
that nobody expects, and it got none.  Without such a failure it was the LOGOUT. -/
theorem every_talk_ends (s : Service) (op : Operation) {w t : σ} {tr : List Event}
    {x : Except Failure Unit} (hrun : Dialogue.Ends law (op.program s).run w tr x t) :
    (∀ talk ∈ talks tr, Parted talk ∨ Dropped talk) ∧
      ((∀ ev ∈ tr, severs ev = false) → ∀ talk ∈ talks tr, Parted talk) := by
  have hsettled : Settled tr := (leaves_operation s op [] w .nil).ends hrun
  exact ⟨hsettled, parted_of_not_severed hsettled⟩

end Operations

namespace Sample

/-- A service with the settings that are used where nothing is configured. -/
def service : Service where
  settings := {}
  directory := { key := "key" }
  transport := {}
  sender := {}

/-- A mailbox on a server that can encrypt a plain connection. -/
def plain : World where
  accounts := [{ record := .object [("id", .int 1), ("email", .text "me@x.io"),
                   ("imapTLS", .bool false)]
                 boxes := [{ name := inbox, messages := [] }] }]
  offersTls := true

/-- The same server, where encryption fails. -/
def unsealed : World := { plain with
  faults := [{ point := .startTls, effect := .broken "tls failed" }] }

/-- The folders of the mailbox are listed. -/
def listing : Operation := .folders "me@x.io"

end Sample

open Sample in
theorem every_talk_ends_sample :
    (talks ((listing.program service).run.trace World.answer plain)).length = 1 ∧
      ∀ talk ∈ talks ((listing.program service).run.trace World.answer plain), Parted talk := by
  have hsealed : ((listing.program service).run.trace World.answer plain).all
      (fun ev => !severs ev) = true := by
    decide +kernel
  refine ⟨by decide +kernel, (every_talk_ends service listing
    (Dialogue.ends_lawOf World.answer (listing.program service).run plain)).2 fun ev hev => ?_⟩
  simpa using List.all_eq_true.1 hsealed ev hev

open Sample in
/-- A connection may be left open: where STARTTLS fails on it, no LOGOUT follows. -/
theorem starttls_abandoned :
    ¬ ∀ (s : Service) (op : Operation) (w : World),
      ∀ talk ∈ talks ((op.program s).run.trace World.answer w), Parted talk := by
  have hone : (talks ((listing.program service).run.trace World.answer unsealed)).length = 1 := by
    decide +kernel
  have hnone : (talks ((listing.program service).run.trace World.answer unsealed)).all
      (fun talk => talk.all fun x => !isFarewell x.1) = true := by
    decide +kernel
  obtain ⟨talk, htalks⟩ := List.length_eq_one_iff.1 hone
  intro h
  obtain ⟨said, r, htalk, -⟩ := h service listing unsealed talk (by rw [htalks]; simp)
  rw [htalks, htalk] at hnone
  simp [isFarewell] at hnone

end Mailroom.Service
