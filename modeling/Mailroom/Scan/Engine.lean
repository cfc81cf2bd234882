import Mailroom.Imap.Connection
import Mailroom.Directory.Client
import Mailroom.Reply.Classifier
import Mailroom.Scan.Report
import Mailroom.Thread.Matching
/-!
  Mailroom.Scan.Engine
  ────────────────────────────────
  **CLASSIFYING THE NEW REPLIES OF ALL MAILBOXES.**

  In each mailbox the replies that do not carry the marker `classified` are paired
  with sent messages and classified one by one.  The outcome is written to the
  reply and to its sent message as a keyword, and the marker of the reply is
  written last: a reply that was left half done is taken up again by the next
  scan.  A failure ends the scan of its mailbox, and the flags that were written
  stay.
-/
namespace Mailroom.Scan

open Mailroom.Imap Mailroom.Mail Mailroom.Reply Mailroom.Thread Mailroom.Text

/-! ## §1. One reply. -/

/-- A reply to be classified, and the sent message that it answers. -/
structure Task where
  reply : Message
  answers : Option Int := none
  deriving Repr, DecidableEq

/-- A message of a folder. -/
structure Place where
  folder : String
  uid : Int
  deriving Repr, DecidableEq

/-- Writes the category of a reply: its keyword to the reply and to the sent
message, then the marker of the sent message, then the marker of the reply. -/
def writeOutcome (c : Category) (reply : Place) (sent : Option Place) : SessionM Unit := do
  match c.keyword? with
  | none => pure ()
  | some keyword =>
    setFlag reply.folder reply.uid keyword
    match sent with
    | none => pure ()
    | some s => setFlag s.folder s.uid keyword
  match sent with
  | none => pure ()
  | some s => setFlag s.folder s.uid classifiedFlag
  setFlag reply.folder reply.uid classifiedFlag

/-- Classifies one reply. -/
def Task.run (classifier : Classifier) (sentFolder : String) (t : Task) : SessionM Category := do
  let category ← SessionM.ofProgram (classifier.judge t.reply.subject t.reply.preview)
  writeOutcome category ⟨inbox, t.reply.uid⟩ (t.answers.map fun uid => ⟨sentFolder, uid⟩)
  return category

/-! ## §2. One mailbox. -/

/-- What came of the scan of a mailbox: its result so far, and the failure that
ended it. -/
structure Progress where
  result : AccountResult
  failure : Option Failure := none
  deriving Repr

/-- The filter for replies that are to be classified. -/
def unclassified : Filter.Expr := .not (.tag classifiedFlag)

/-- The message with a UID; of several the last. -/
def lastWith? (uid : Int) (messages : List Message) : Option Message :=
  messages.reverse.find? (·.uid == uid)

/-- The tasks for replies and the sent messages that they may answer: first the
replies that answer one. -/
def tasksOf (replies : List Message) (m : Matching) : List Task :=
  m.found.filterMap (fun p =>
    (lastWith? p.inbound replies).map fun reply => { reply, answers := some p.outbound })
  ++ m.unmatched.filterMap fun uid => (lastWith? uid replies).map fun reply => { reply, answers := none }

/-- How mailboxes are scanned: the newest unclassified replies and the newest
sent messages that are considered. -/
structure Engine where
  directory : Directory.Client
  transport : Transport
  classifier : Classifier
  inboxLimit : Int := 50
  sentLimit : Int := 200
  deriving Repr

/-- Works through tasks until one fails. -/
def Engine.work (e : Engine) (sentFolder : String) (result : AccountResult) :
    List Task → SessionM Progress
  | [] => return { result := result }
  | t :: ts => do
    match ← SessionM.attempt (t.run e.classifier sentFolder) with
    | .ok category => e.work sentFolder (result.record category) ts
    | .error f => return { result, failure := some f }

/-- The replies that are to be classified. -/
def Engine.newReplies (e : Engine) : SessionM (List Message) := do
  return selected unclassified (← fetchUnclassified inbox e.inboxLimit)

/-- The name of the sent folder and its newest messages. -/
def Engine.sentMessages (e : Engine) : SessionM (String × List Message) := do
  let folder ← resolve sent
  return (folder, (← fetchPage folder e.sentLimit 1).messages)

/-- Scans the mailbox of a session. -/
def Engine.scanSession (e : Engine) (result : AccountResult) : SessionM Progress := do
  let replies ← e.newReplies
  if replies.isEmpty then return { result := result }
  let (sentFolder, outbound) ← e.sentMessages
  let m := matching replies outbound
  e.work sentFolder { result with matched := m.found.length, unmatched := m.unmatched.length }
    (tasksOf replies m)

/-- Scans the mailbox of an entry of the listing. -/
def Engine.scanEntry (e : Engine) (entry : Directory.Entry) : Dialogue Progress := do
  let result : AccountResult := { account := entry.email }
  let program : Program Progress := do
    let mailbox ← e.directory.mailbox entry.id
    e.transport.within mailbox (e.scanSession result)
  match ← program.run with
  | .ok progress => return progress
  | .error f => return { result, failure := some f }

/-! ## §3. All mailboxes. -/

/-- The result for a mailbox whose failure, if any, concerns only this mailbox. -/
def Progress.close (p : Progress) : Except Failure AccountResult :=
  match p.failure with
  | none => .ok p.result
  | some f =>
    if f.endsAccount then .ok { p.result with error := some f.message } else .error f

/-- Scans mailboxes one after the other. -/
def Engine.scanAll (e : Engine) : List Directory.Entry → Program (List AccountResult)
  | [] => return []
  | entry :: entries => do
    let result ← Program.ofExcept (← ExceptT.lift (e.scanEntry entry)).close
    return result :: (← e.scanAll entries)

/-- The entries with an address, or all of them where none is asked for. -/
def chosen (address : Option String) (entries : List Directory.Entry) :
    Except Failure (List Directory.Entry) :=
  match address with
  | none => .ok entries
  | some a =>
    match entries.filterM (Directory.Entry.hasAddress (lower (trim a))) with
    | .error e => .error (.misuse e)
    | .ok [] => .error (.directory (.nothingToScan a))
    | .ok found => .ok found

/-- Scans the mailboxes of the directory, or the one with an address. -/
def Engine.run (e : Engine) (address : Option String) : Program Report := do
  let scanId ← Program.ask .scanId
  let start ← Program.ask .clock
  let entries ← Program.ofExcept (chosen address (← e.directory.list))
  let results ← e.scanAll entries
  let stop ← Program.ask .clock
  return { scanId, durationMs := (stop - start : Nat), results }

end Mailroom.Scan
