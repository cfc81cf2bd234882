import Mailroom.Mail.Outgoing
import Mailroom.Imap.Command
/-!
  Mailroom.Smtp.Command
  ────────────────────────────────
  **WHAT IS SAID ON AN SMTP CONNECTION.**
-/
namespace Mailroom.Smtp

/-- A step of an SMTP exchange. -/
inductive Command where
  | connect (endpoint : Imap.Endpoint)
  | hello
  | startTls
  | login (user password : Json)
  | send (letter : Mail.Letter) (sender : Json) (recipients : List String)
  | quit
  deriving Repr

/-- How a step can fail. -/
inductive Fault where
  /-- Every recipient was refused; those the server named. -/
  | allRefused (refused : List String)
  /-- The server closed the connection. -/
  | lost (reason : String)
  /-- The connection broke in another way, or the server reported an error. -/
  | connection (reason : String)
  /-- Something else went wrong that no operation expects. -/
  | foreign (reason : String)
  deriving Repr, DecidableEq

/-- The answer to a step: whether the server offers encryption, which a greeting
tells, and the recipients it refused, which sending tells. -/
structure Response where
  offersTls : Bool := false
  refused : List String := []
  deriving Repr, DecidableEq

end Mailroom.Smtp
