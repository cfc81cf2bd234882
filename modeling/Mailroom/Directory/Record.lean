import Mailroom.Json.Misuse
import Mailroom.Text.Blank
/-!
  Mailroom.Directory.Record
  ────────────────────────────────
  **WHAT THE DIRECTORY SAYS ABOUT A MAILBOX.**

  The directory lists its mailboxes and hands out, for each, the hosts and
  credentials of its servers.  Only the number of a mailbox is demanded: any
  other field may be missing, null or of any shape, and keeps the value it came
  with.
-/
namespace Mailroom.Directory

open Mailroom.Text

/-! ## §1. Fields. -/

/-- The fields of a record. -/
abbrev Fields := List (String × Json)

/-- The value of a field, or the empty text where it is missing. -/
def given (key : String) (fields : Fields) : Json := (Json.field? key fields).getD (.text "")

/-- The value of a field, or the empty text where it is missing or empty. -/
def orBlank (key : String) (fields : Fields) : Json := Json.orEmpty (Json.field? key fields)

/-- The number of the mailbox that a record describes. -/
def numberOf (fields : Fields) : Except Json.Misuse Int :=
  match Json.field? "id" fields with
  | some v => v.toInt
  | none => .error (.missingField "id")

/-- A port: zero where it is missing or empty. -/
def portOf (key : String) (fields : Fields) : Except Json.Misuse Int :=
  match Json.field? key fields with
  | some v => if v.isGiven then v.toInt else .ok 0
  | none => .ok 0

/-- A switch, on where it is missing. -/
def switchOf (key : String) (fields : Fields) : Bool :=
  ((Json.field? key fields).map Json.isGiven).getD true

/-- A user name, by default the address of the mailbox. -/
def userOf (key : String) (fields : Fields) : Json :=
  match Json.field? key fields with
  | some v => if v.isGiven then v else given "email" fields
  | none => given "email" fields

/-! ## §2. Entries of the listing. -/

/-- A mailbox in the listing. -/
structure Entry where
  id : Int
  email : Json
  firstName : Json
  lastName : Json
  status : Json
  domain : Json
  deriving Repr

/-- The name of a domain, which may come as a record of its own. -/
def domainOf (fields : Fields) : Json :=
  match Json.field? "domain" fields with
  | some v =>
    if v.isGiven then
      match v with
      | .object domain => given "domain" domain
      | other => .text other.plain
    else .text ""
  | none => .text ""

/-- Reads an entry of the listing. -/
def Entry.ofJson (data : Json) : Except Json.Misuse Entry := do
  let fields ← data.fieldsFor "get"
  let id ← numberOf fields
  return {
    id
    email := given "email" fields
    firstName := orBlank "firstName" fields
    lastName := orBlank "lastName" fields
    status := orBlank "status" fields
    domain := domainOf fields }

/-- A full name: first and last name with a blank between them, trimmed. -/
def fullName (first last : Json) : String := trim (first.plain ++ " " ++ last.plain)

/-- The full name of the owner of a mailbox. -/
def Entry.name (e : Entry) : String := fullName e.firstName e.lastName

/-- An entry as a record of its own. -/
def Entry.toJson (e : Entry) : Json := .object
  [("id", .int e.id), ("email", e.email), ("firstName", e.firstName),
   ("lastName", e.lastName), ("status", e.status), ("domain", e.domain)]

/-! ## §3. Mailboxes. -/

/-- Where a server is reached, and with which credentials. -/
structure Access where
  host : Json
  port : Int
  tls : Bool
  user : Json
  password : Json
  deriving Repr

/-- A mailbox with the access to its two servers. -/
structure Mailbox where
  id : Int
  email : Json
  firstName : Json
  lastName : Json
  imap : Access
  smtp : Access
  deriving Repr

/-- The fields of an object, asked for one by one. -/
def fieldsOf : Json → Except Json.Misuse Fields
  | .object fields => .ok fields
  | v => .error (.noFields v.shape)

/-- The access whose fields start with `stem`, given its port. -/
def accessOf (stem : String) (port : Int) (fields : Fields) : Access where
  host := orBlank (stem ++ "Host") fields
  port
  tls := switchOf (stem ++ "TLS") fields
  user := userOf (stem ++ "Username") fields
  password := orBlank (stem ++ "Password") fields

/-- Reads the record of a mailbox. -/
def Mailbox.ofJson (data : Json) : Except Json.Misuse Mailbox := do
  let fields ← fieldsOf data
  let id ← numberOf fields
  let imapPort ← portOf "imapPort" fields
  let smtpPort ← portOf "smtpPort" fields
  return {
    id
    email := given "email" fields
    firstName := orBlank "firstName" fields
    lastName := orBlank "lastName" fields
    imap := accessOf "imap" imapPort fields
    smtp := accessOf "smtp" smtpPort fields }

/-- The sender that messages of a mailbox state, `Name <address>`; without a name
the address as it came. -/
def Mailbox.sender (m : Mailbox) : Json :=
  let name := fullName m.firstName m.lastName
  if name == "" then m.email else .text (name ++ " <" ++ m.email.plain ++ ">")

/-- A mailbox as it is shown in messages, without its credentials. -/
def Mailbox.shown (m : Mailbox) : String :=
  s!"MailboxDetails(id={m.id}, email={m.email.shown}, imap_host={m.imap.host.shown})"

end Mailroom.Directory
