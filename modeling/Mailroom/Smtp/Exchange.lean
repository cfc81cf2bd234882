import Mailroom.Mail.Compose
/-!
  Mailroom.Smtp.Exchange
  ────────────────────────────────
  **SENDING A LETTER.**

  A plain connection is encrypted where the server offers it.  Once the greeting
  is over, the connection is left with `quit`, whatever happens on it.  That all
  recipients are refused is an outcome of the exchange and not a failure.
-/
namespace Mailroom.Smtp

open Mailroom.Number Mailroom.Directory Mailroom.Mail

/-! ## §1. Steps. -/

/-- How letters are sent: the patience with a server. -/
structure Sender where
  timeout : Binary64 := .ofInt 30
  deriving Repr

/-- A part of an exchange: it ends in a fault or goes on. -/
abbrev Step (α : Type) : Type := ExceptT Fault Dialogue α

/-- Takes one step. -/
def step (c : Command) : Step Response := ExceptT.mk (Dialogue.put (.smtp c))

/-- Where the SMTP server of a mailbox is reached. -/
def Sender.endpoint (s : Sender) (m : Mailbox) : Imap.Endpoint where
  secure := m.smtp.tls
  host := m.smtp.host
  port := if m.smtp.port == 0 then (if m.smtp.tls then 465 else 587) else m.smtp.port
  timeout := s.timeout

/-- Opens a connection, encrypted where possible. -/
def greet (e : Imap.Endpoint) : Step Unit := do
  let _ ← step (.connect e)
  if !e.secure then
    if (← step .hello).offersTls then
      let _ ← step .startTls
      let _ ← step .hello

/-- Logs in and hands a letter over; the recipients that were refused. -/
def handOver (m : Mailbox) (letter : Letter) (recipients : List String) : Step (List String) := do
  let _ ← step (.login m.smtp.user m.smtp.password)
  return (← step (.send letter m.email recipients)).refused

/-- Leaves a connection; that it is lost already does not matter, but an error that the
server reports does. -/
def leave : Step Unit := do
  match ← ExceptT.lift (step .quit).run with
  | .ok _ | .error (.lost _) => return ()
  | .error fault => throw fault

/-- The whole exchange: the recipients that were refused. -/
def exchange (e : Imap.Endpoint) (m : Mailbox) (letter : Letter) (recipients : List String) :
    Step (List String) := do
  greet e
  let refused ← ExceptT.lift (handOver m letter recipients).run
  leave
  ExceptT.mk (pure refused)

/-! ## §2. Deliveries. -/

/-- The delivery of a letter to recipients of whom some were refused. -/
def deliveryOf (letter : Letter) (recipients refused : List String) : Delivery where
  messageId := letter.messageId.shown
  accepted := recipients.filter (!refused.contains ·)
  rejected := recipients.filter (refused.contains ·)
  raw := letter.octets

/-- The delivery of a letter of which the server refused all recipients. -/
def refusalOf (letter : Letter) (recipients refused : List String) : Delivery where
  messageId := letter.messageId.shown
  accepted := []
  rejected := recipients.filter (refused.contains ·)
  raw := []

/-- What an exchange means for the delivery of a letter. -/
def Sender.outcome (m : Mailbox) (letter : Letter) (recipients : List String) :
    Except Fault (List String) → Except Failure Delivery
  | .ok refused => .ok (deliveryOf letter recipients refused)
  | .error (.allRefused refused) => .ok (refusalOf letter recipients refused)
  | .error (.lost reason) | .error (.connection reason) =>
    .error (.transport (.send m.smtp.host.plain reason))
  | .error (.foreign reason) => .error (.foreign reason)

/-- Composes a letter and sends it from a mailbox. -/
def Sender.send (s : Sender) (m : Mailbox) (r : Mail.Request) : Program Delivery := do
  let letter ← Program.ofExcept (compose m r (← Program.ask .stamp))
  let outcome ← ExceptT.lift (exchange (s.endpoint m) m letter r.recipients).run
  Program.ofExcept (Sender.outcome m letter r.recipients outcome)

end Mailroom.Smtp
