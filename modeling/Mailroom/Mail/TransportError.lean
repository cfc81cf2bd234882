/-!
  Mailroom.Mail.TransportError
  ────────────────────────────────
  **HOW A MAIL SERVER CAN FAIL.**

  A command fails because the connection broke or the server reported an error,
  or because its answer was not `OK`.
-/
namespace Mailroom.Mail

/-- An operation on an open IMAP connection. -/
inductive Operation where
  | select | search | fetch | store | list | append
  deriving Repr, DecidableEq

/-- The name of an operation. -/
def Operation.name : Operation → String
  | select => "select"
  | search => "search"
  | fetch => "fetch"
  | store => "store"
  | list => "list"
  | append => "append"

/-- A failed exchange with a mail server. -/
inductive TransportError where
  /-- A command could not be completed. -/
  | broken (operation : Operation) (folder : Option String) (reason : String)
  /-- A command was answered with another status than `OK`. -/
  | refused (operation : Operation) (folder : Option String) (status detail : String)
  /-- The IMAP server could not be reached. -/
  | connect (host : String) (port : Int) (reason : String)
  /-- The IMAP server did not accept the credentials. -/
  | login (email host reason : String)
  /-- The SMTP exchange failed. -/
  | send (host reason : String)
  deriving Repr, DecidableEq

namespace TransportError

/-- The folder of a failed command in its message. -/
def folderText : Option String → String
  | some folder => if folder == "" then "" else " on " ++ folder
  | none => ""

/-- The message for a transport error. -/
def message : TransportError → String
  | broken operation folder reason =>
    s!"IMAP {operation.name} failed{folderText folder}: {reason}"
  | refused operation folder status detail =>
    s!"IMAP {operation.name} failed{folderText folder}: {status} {detail}"
  | connect host port reason => s!"Could not connect to IMAP server {host}:{port}: {reason}"
  | login email host reason => s!"IMAP login failed for {email} on {host}: {reason}"
  | send host reason => s!"SMTP send via {host} failed: {reason}"

/-- The name of the operation that failed. -/
def operation : TransportError → String
  | broken operation _ _ => operation.name
  | refused operation _ _ _ => operation.name
  | connect _ _ _ => "connect"
  | login _ _ _ => "login"
  | send _ _ => "send"

/-- The folder involved. -/
def folder? : TransportError → Option String
  | broken _ folder _ => folder
  | refused _ folder _ _ => folder
  | _ => none

end TransportError

end Mailroom.Mail
