import Mailroom.Failure
import Mailroom.Imap.Fetch
import Mailroom.Imap.Folder
import Mailroom.Imap.MailboxName
import Mailroom.Mail.Page
import Mailroom.Mail.Snapshot
/-!
  Mailroom.Imap.Session
  ────────────────────────────────
  **WORKING IN THE FOLDERS OF A MAILBOX.**

  A session is an open connection on which somebody is logged in.  It remembers
  the folder that it selected last, so that it is not selected again, and the
  name of the sent folder once it is known; both survive a failure.
-/
namespace Mailroom.Imap

open Mailroom.Mail Mailroom.Text

/-! ## §1. Sessions. -/

/-- What is known about an open connection. -/
structure Session where
  host : Json
  previewLength : Int := 200
  /-- The folder selected last, and whether only for reading. -/
  selected : Option (String × Bool) := none
  sentFolder : Option String := none
  deriving Repr

/-- A program on an open connection. -/
abbrev SessionM (α : Type) : Type := ExceptT Failure (StateT Session Dialogue) α

namespace SessionM

/-- Asks one question. -/
def ask (c : Mailroom.Command) : SessionM c.Answer :=
  ExceptT.lift (StateT.lift (Dialogue.put c))

/-- The outcome of a program as a value. -/
def attempt {α : Type} (p : SessionM α) : SessionM (Except Failure α) := ExceptT.lift p.run

/-- A program that does not need the connection. -/
def ofProgram {α : Type} (p : Program α) : SessionM α := ExceptT.mk (StateT.lift p.run)

/-- What is known about the connection. -/
def session : SessionM Session := ExceptT.lift get

/-- Changes what is known about the connection. -/
def update (f : Session → Session) : SessionM Unit := ExceptT.lift (modify f)

/-- A result, or the failure that a fault stands for. -/
def ofExcept {ε α : Type} (failure : ε → Failure) : Except ε α → SessionM α
  | .ok a => pure a
  | .error e => throw (failure e)

end SessionM

open SessionM

/-! ## §2. Commands. -/

/-- What an answer says when it is not `OK`. -/
def detailOf (items : List Item) : String :=
  match items with
  | .line bs :: _ => decode bs
  | _ => shownItems items

/-- Sends a command for an operation and expects the answer `OK`. -/
def command (operation : Operation) (folder : Option String) (c : Command) :
    SessionM (List Item) := do
  match ← SessionM.ask (.imap c) with
  | .error (.connection reason) => throw (.transport (.broken operation folder reason))
  | .error (.foreign reason) => throw (.foreign reason)
  | .ok r =>
    if r.status == okStatus then return r.items
    else throw (.transport (.refused operation folder r.status (detailOf r.items)))

/-- Selects a folder, unless it is the one selected last. -/
def select (folder : String) (readonly : Bool) : SessionM Unit := do
  if (← session).selected == some (folder, readonly) then return ()
  let _ ← command .select (some folder) (.select (quotedName folder) readonly)
  update fun s => { s with selected := some (folder, readonly) }

/-- The UIDs in an answer to a search, in ascending order. -/
def uidsOf (items : List Item) : Except WireFault (List Int) :=
  match items with
  | [] => .ok []
  | .absent :: _ => .ok []
  | .group [] :: _ => .ok []
  | .group _ :: _ => .error (.groupForLine "split")
  | .line bs :: _ => ((byteWords bs).mapM number).map fun uids => uids.mergeSort (· ≤ ·)

/-- The UIDs of the messages of the selected folder that a criterion finds. -/
def search (folder : String) (c : Criterion) : SessionM (List Int) := do
  ofExcept .wire (uidsOf (← command .search (some folder) (.search c)))

/-- Messages with the highest UID first. -/
def newestFirst (messages : List Message) : List Message :=
  messages.mergeSort fun a b => b.uid ≤ a.uid

/-- Reads the messages of the selected folder with some UIDs, newest first. -/
def fetch (folder : String) (uids : List Int) : SessionM (List Message) := do
  if uids.isEmpty then return []
  let fetched ← ofExcept .wire (readFetch (← command .fetch (some folder) (.fetch uids)))
  let length := (← session).previewLength
  let messages ← ofExcept .header
    (fetched.mapM fun m => Message.ofOctets m.uid m.raw m.flags length)
  return newestFirst messages

/-! ## §3. Reading. -/

/-- One page of a folder of UIDs in ascending order. -/
def pageOf (uids : List Int) (limit page : Int) : List Int :=
  (uids.reverse.drop ((page - 1) * limit).toNat).take limit.toNat

/-- Reads one page of a folder, newest message first. -/
def fetchPage (folder : String) (limit page : Int) : SessionM Page := do
  let limit := max 1 limit
  select folder true
  let uids ← search folder .all
  match paginate? uids.length limit page with
  | none => throw .tooManyPages
  | some (totalPages, page) =>
    let messages ← fetch folder (pageOf uids limit page)
    return { messages, total := uids.length, page, totalPages }

/-- The last `limit` elements of a list. -/
def lastOf {α : Type} (limit : Int) (xs : List α) : List α := xs.drop (xs.length - limit.toNat)

/-- Reads up to `limit` of the newest messages that the server takes to be
unclassified. -/
def fetchUnclassified (folder : String) (limit : Int) : SessionM (List Message) := do
  select folder true
  let uids ← search folder (.unkeyword classifiedFlag)
  fetch folder (lastOf limit uids)

/-- The criterion for messages with a flag. -/
def criterionOf (flag : String) : Criterion :=
  match systemKey? flag with
  | some key => .system key
  | none => .keyword flag

/-- Refuses a flag that cannot be sent. -/
def checkFlag (flag : String) : SessionM Unit :=
  if isFlag flag then pure () else throw (.flag flag)

/-- The number of messages of a folder with a flag. -/
def countFlag (folder flag : String) : SessionM Nat := do
  checkFlag flag
  select folder true
  return (← search folder (criterionOf flag)).length

/-! ## §4. Writing. -/

/-- Changes a flag of a message. -/
def store (folder : String) (uid : Int) (change : Change) (flag : String) : SessionM Unit := do
  checkFlag flag
  select folder false
  let _ ← command .store (some folder) (.store uid change flag)

/-- Sets a flag of a message. -/
def setFlag (folder : String) (uid : Int) (flag : String) : SessionM Unit :=
  store folder uid .add flag

/-- Takes a flag of a message away. -/
def removeFlag (folder : String) (uid : Int) (flag : String) : SessionM Unit :=
  store folder uid .remove flag

/-- The flags of a message that is filed, unless others are given. -/
def seenFlags : String := "(\\Seen)"

/-- Files a message in a folder. -/
def append (folder : String) (raw : Octets) (flags : String) : SessionM Unit := do
  let _ ← command .append (some folder) (.append (quotedName folder) flags raw)

/-! ## §5. Folders. -/

/-- The folders of the mailbox. -/
def listFolders : SessionM (List Folder) := do
  ofExcept .wire (readFolders (← command .list none .list))

/-- The usual name of the sent folder on the host of the session. -/
def usualSentFolder : SessionM String := do
  return sentFolderFor (← ofExcept .misuse ((← session).host.textFor "lower"))

/-- The attribute of the sent folder. -/
def sentAttribute : String := "\\Sent"

/-- The sent folder: the first that is marked so, or the usual one where none is
or the folders cannot be listed. -/
def findSentFolder : SessionM String := do
  match ← attempt listFolders with
  | .ok folders =>
    match folders.find? fun f => f.attributes.contains sentAttribute with
    | some f => return f.name
    | none => usualSentFolder
  | .error (.transport _) => usualSentFolder
  | .error e => throw e

/-- The alias of the inbox, which is its name as well. -/
def inbox : String := "INBOX"

/-- The alias of the sent folder. -/
def sent : String := "SENT"

/-- The folder that a name stands for: `INBOX` and `SENT`, in any letter case
and with white space around them, are aliases. -/
def resolve (name : String) : SessionM String := do
  let key := trim name
  if isWord inbox key then return inbox
  else if isWord sent key then
    match (← session).sentFolder with
    | some folder => return folder
    | none =>
      let folder ← findSentFolder
      update fun s => { s with sentFolder := some folder }
      return folder
  else return name

/-! ## §6. The end. -/

/-- Logs out; a connection that is lost already does not matter. -/
def close : SessionM Unit := do
  let answer ← SessionM.ask (.imap .logout)
  update fun s => { s with selected := none }
  match answer with
  | .error (.foreign reason) => throw (.foreign reason)
  | _ => return ()

end Mailroom.Imap
