import Mailroom.Config.Load
import Mailroom.Scan.Engine
import Mailroom.Smtp.Exchange
/-!
  Mailroom.Service
  ────────────────────────────────
  **WHAT CAN BE DONE WITH A MAILBOX.**

  Every operation names a mailbox by its address, looks up its access in the
  directory, and runs in a session of its own.
-/
namespace Mailroom

open Mailroom.Imap Mailroom.Mail

/-- The service: the directory, the two transports, and the settings. -/
structure Service where
  settings : Config.Settings
  directory : Directory.Client
  transport : Transport
  sender : Smtp.Sender
  deriving Repr

namespace Service

/-! ## §1. From settings. -/

/-- A key that an operation needs, or the failure that it is missing. -/
def keyOr (s : Config.Settings) (k : Config.Key) : Except Failure String :=
  match s.key? k with
  | some key => .ok key
  | none => .error (.missingKey k)

/-- The client that settings describe. -/
def clientOf (s : Config.Settings) (key : String) : Directory.Client where
  key
  base := s.directory.apiBase
  pageLimit := s.directory.pageLimit
  timeout := s.directory.timeout

/-- The transport that settings describe. -/
def transportOf (s : Config.Settings) : Transport where
  defaultHost := s.imap.defaultHost
  defaultPort := s.imap.defaultPort
  timeout := s.imap.timeout
  previewLength := s.mail.previewLength

/-- The service that settings describe; it needs the key of the directory. -/
def ofSettings (s : Config.Settings) : Except Failure Service := do
  let key ← keyOr s .directory
  return { settings := s, directory := clientOf s key, transport := transportOf s
           sender := { timeout := s.imap.timeout } }

/-! ## §2. Reading. -/

/-- The mailboxes of the directory. -/
def accounts (s : Service) : Program (List Directory.Entry) := s.directory.list

/-- Does `body` in a session for the mailbox with an address. -/
def inMailbox {α : Type} (s : Service) (email : String) (body : SessionM α) : Program α := do
  let m ← s.directory.mailboxAt email
  s.transport.within m body

/-- The folders of a mailbox. -/
def folders (s : Service) (email : String) : Program (List Folder) :=
  s.inMailbox email listFolders

/-- The size of a page, given what was asked for: zero asks for nothing. -/
def pageSize (s : Service) (limit : Option Int) : Int :=
  max 1 ((limit.filter (· != 0)).getD s.settings.mail.defaultListLimit)

/-- A filter from its text; an empty text is no filter. -/
def filterOf (text : Option String) : Except Failure (Option Filter.Expr) :=
  match text.filter (· != "") with
  | none => .ok none
  | some t =>
    match Filter.parse t with
    | .ok e => .ok (some e)
    | .error e => .error (.filter e)

/-- A page with only the messages that satisfy a filter. -/
def filtered (filter : Option Filter.Expr) (p : Page) : Page :=
  match filter with
  | none => p
  | some e => { p with messages := selected e p.messages }

/-- Lists one page of a folder.  The filter is read before anything is asked of
the outside world; it applies to the page and not to the folder. -/
def messages (s : Service) (email folder : String) (limit : Option Int) (page : Int)
    (filter : Option String) : Program Page := do
  let filter ← Program.ofExcept (filterOf filter)
  let found ← s.inMailbox email do
    let resolved ← resolve folder
    fetchPage resolved (s.pageSize limit) page
  return filtered filter found

/-- The number of messages of a folder with a tag, and the name of the folder. -/
def count (s : Service) (email folder tag : String) : Program (String × Nat) :=
  s.inMailbox email do
    let resolved ← resolve folder
    return (resolved, ← countFlag resolved tag)

/-! ## §3. Writing. -/

/-- Changes tags of a message one after the other. -/
def changeTags (change : Change) (folder : String) (uid : Int) : List String → SessionM Unit
  | [] => return ()
  | tag :: tags => do
    store folder uid change tag
    changeTags change folder uid tags

/-- Changes tags of a message; the name of its folder. -/
def retag (s : Service) (change : Change) (email folder : String) (uid : Int)
    (tags : List String) : Program String :=
  s.inMailbox email do
    let resolved ← resolve folder
    changeTags change resolved uid tags
    return resolved

/-- Files a copy of a letter in the sent folder of a mailbox. -/
def file (s : Service) (m : Directory.Mailbox) (raw : Octets) : Program Unit :=
  s.transport.within m do
    append (← resolve sent) raw seenFlags

/-- Sends a message and files a copy of it.  Once the message is sent, a server
that does not take the copy does not matter. -/
def send (s : Service) (email : String) (r : Request) : Program Delivery := do
  let m ← s.directory.mailboxAt email
  let delivery ← s.sender.send m r
  if delivery.accepted.isEmpty then return delivery
  match ← Program.attempt (s.file m delivery.raw) with
  | .ok () => return delivery
  | .error (.transport _) => return delivery
  | .error e => throw e

/-! ## §4. Scanning. -/

/-- The scan engine; it needs the key of the classifier. -/
def engine (s : Service) : Except Failure Scan.Engine := do
  let _ ← keyOr s.settings .classifier
  return {
    directory := s.directory
    transport := s.transport
    classifier := { model := s.settings.classifier.model
                    maxTokens := s.settings.classifier.maxTokens }
    inboxLimit := s.settings.scan.inboxLimit
    sentLimit := s.settings.scan.sentLimit }

/-- Classifies the new replies of all mailboxes, or of the one with an address. -/
def classify (s : Service) (address : Option String) : Program Scan.Report := do
  let engine ← Program.ofExcept s.engine
  engine.run address

end Service

end Mailroom
