import Mailroom.Service
/-!
  Mailroom.Tools
  ────────────────────────────────
  **THE TOOLS OF AN AGENT.**

  An agent calls tools by name.  A call that cannot be carried out for a reason
  that the agent can understand ends in a tool error; any other failure is not
  the agent's.
-/
namespace Mailroom.Tools

open Mailroom.Mail

/-! ## §1. Signatures. -/

/-- A tool with its parameters, of which those marked have to be given. -/
structure Signature where
  name : String
  parameters : List (String × Bool)
  deriving Repr, DecidableEq

/-- The names of the parameters that have to be given. -/
def Signature.required (s : Signature) : List String :=
  (s.parameters.filter (·.2)).map (·.1)

/-- The parameters of a listing. -/
def listingParameters : List (String × Bool) :=
  [("email", true), ("limit", false), ("page", false), ("tags", false)]

/-- The parameters of a change of tags. -/
def taggingParameters : List (String × Bool) :=
  [("email", true), ("uid", true), ("tags", true), ("folder", false)]

/-- All tools. -/
def signatures : List Signature :=
  [{ name := "ping", parameters := [] },
   { name := "list_email_accounts", parameters := [] },
   { name := "list_folders", parameters := [("email", true)] },
   { name := "list_received_emails", parameters := listingParameters },
   { name := "list_sent_emails", parameters := listingParameters },
   { name := "tag_email", parameters := taggingParameters },
   { name := "untag_email", parameters := taggingParameters },
   { name := "count_tagged_emails",
     parameters := [("email", true), ("tag", true), ("folder", false)] },
   { name := "send_email",
     parameters := [("email", true), ("to", true), ("subject", true), ("text", false),
       ("html", false), ("cc", false), ("bcc", false)] },
   { name := "classify_replies", parameters := [("email", false)] }]

/-! ## §2. Calls. -/

/-- How a folder is listed. -/
structure Listing where
  limit : Option Int := none
  page : Int := 1
  tags : Option String := none
  deriving Repr, DecidableEq

/-- A call of a tool. -/
inductive Call where
  | ping
  | accounts
  | folders (email : String)
  | received (email : String) (listing : Listing)
  | sent (email : String) (listing : Listing)
  | tag (email : String) (uid : Int) (tags : List String) (folder : String)
  | untag (email : String) (uid : Int) (tags : List String) (folder : String)
  | count (email tag folder : String)
  | send (email : String) (request : Mail.Request)
  | classify (email : Option String)
  deriving Repr

/-- The folder that is meant where none is named. -/
def defaultFolder : String := Imap.inbox

/-! ## §3. Results. -/

/-- A message as a record. -/
def messageJson (m : Message) : Json := .object
  [("uid", .int m.uid), ("flags", .list ((sortedSet m.flags).map .text)),
   ("subject", .text m.subject), ("from", .text m.sender), ("to", .text m.addressees),
   ("date", .text ((m.date.map (·.text)).getD "")), ("preview", .text m.preview)]

/-- A page as a record. -/
def pageJson (p : Page) : Json := .object
  [("messages", .list (p.messages.map messageJson)), ("total", .int p.total),
   ("page", .int p.page), ("totalPages", .int p.totalPages)]

/-- A folder as a record. -/
def folderJson (f : Imap.Folder) : Json := .object
  [("name", .text f.name),
   ("specialUse", match f.specialUse? with | some use => .text use | none => .null),
   ("attributes", .list ((sortedSet f.attributes).map .text))]

/-- A delivery as a record. -/
def deliveryJson (d : Delivery) : Json := .object
  [("messageId", .text d.messageId), ("accepted", .list (d.accepted.map .text)),
   ("rejected", .list (d.rejected.map .text))]

/-- The sign of life. -/
def pong : Json := .object
  [("result", .text "pong"), ("message", .text "MCP server is healthy")]

/-- The record for a change of tags, which stand under `key`. -/
def taggedJson (folder : String) (uid : Int) (key : String) (tags : List String) : Json := .object
  [("folder", .text folder), ("uid", .int uid), (key, .list (tags.map .text))]

/-! ## §4. Carrying calls out. -/

/-- Carries a call out with the service. -/
def perform (s : Service) : Call → Program Json
  | .ping => return pong
  | .accounts => return .list ((← s.accounts).map Directory.Entry.toJson)
  | .folders email => return .list ((← s.folders email).map folderJson)
  | .received email l => return pageJson (← s.messages email Imap.inbox l.limit l.page l.tags)
  | .sent email l => return pageJson (← s.messages email Imap.sent l.limit l.page l.tags)
  | .tag email uid tags folder => do
    return taggedJson (← s.retag .add email folder uid tags) uid "added" tags
  | .untag email uid tags folder => do
    return taggedJson (← s.retag .remove email folder uid tags) uid "removed" tags
  | .count email tag folder => do
    let (resolved, n) ← s.count email folder tag
    return .object [("folder", .text resolved), ("tag", .text tag), ("count", .int n)]
  | .send email r => return deliveryJson (← s.send email r)
  | .classify email => return (← s.classify email).toJson

/-- Why a call has no result: a tool error for the agent, or another failure. -/
inductive Fault where
  | toolError (message : String)
  | other (f : Failure)
  deriving Repr

/-- What a failure is for the agent. -/
def faultOf (f : Failure) : Fault :=
  if f.isReported || f.isRejected then .toolError f.message else .other f

/-- Carries a call out under settings; only `ping` does without the service. -/
def run (settings : Config.Settings) (c : Call) : Dialogue (Except Fault Json) := do
  let program : Program Json :=
    match c with
    | .ping => return pong
    | c => do perform (← Program.ofExcept (Service.ofSettings settings)) c
  match ← program.run with
  | .ok result => return .ok result
  | .error f => return .error (faultOf f)

end Mailroom.Tools
