import Mailroom.Directory.Record
import Mailroom.Imap.Session
/-!
  Mailroom.Imap.Connection
  ────────────────────────────────
  **OPENING A SESSION AND LEAVING IT.**

  A plain connection is encrypted where the server offers it.  Whatever happens
  after a connection was opened and encrypted, somebody logs out of it, and that
  is the last thing said on it.
-/
namespace Mailroom.Imap

open Mailroom.Number Mailroom.Directory

/-- How connections are opened: host and port where a mailbox states none, the
patience with a server, and the length of previews. -/
structure Transport where
  defaultHost : String := "imap.mailpool.io"
  defaultPort : Int := 993
  timeout : Binary64 := .ofInt 30
  previewLength : Int := 200
  deriving Repr

/-- Where the IMAP server of a mailbox is reached. -/
def Transport.endpoint (t : Transport) (m : Mailbox) : Endpoint where
  secure := m.imap.tls
  host := if m.imap.host.isGiven then m.imap.host else .text t.defaultHost
  port := if m.imap.port == 0 then t.defaultPort else m.imap.port
  timeout := t.timeout

/-- The capability of a server that can encrypt a plain connection. -/
def startTlsCapability : String := "STARTTLS"

/-- The failure that a fault while connecting stands for. -/
def connectFailure (e : Endpoint) : Fault → Failure
  | .connection reason => .transport (.connect e.host.plain e.port reason)
  | .foreign reason => .foreign reason

/-- Opens a connection, encrypted where possible. -/
def connect (e : Endpoint) : Program Unit := do
  match ← Program.ask (.connect e) with
  | .error fault => throw (connectFailure e fault)
  | .ok capabilities =>
    if !e.secure && capabilities.contains startTlsCapability then
      match ← Program.ask (.imap .startTls) with
      | .error fault => throw (connectFailure e fault)
      | .ok _ => return ()

/-- Logs in, and out again where that fails. -/
def login (m : Mailbox) (e : Endpoint) : Program Unit := do
  match ← Program.ask (.imap (.login m.imap.user m.imap.password)) with
  | .ok _ => return ()
  | .error (.foreign reason) => throw (.foreign reason)
  | .error (.connection reason) =>
    match ← Program.ask (.imap .logout) with
    | .error (.foreign reason) => throw (.foreign reason)
    | _ => throw (.transport (.login m.email.plain e.host.plain reason))

/-- Opens a session for a mailbox. -/
def Transport.start (t : Transport) (m : Mailbox) : Program Session := do
  let e := t.endpoint m
  connect e
  login m e
  return { host := e.host, previewLength := t.previewLength }

/-- Does `body` in a session for a mailbox and leaves the session, whether
`body` fails or not. -/
def Transport.within {α : Type} (t : Transport) (m : Mailbox) (body : SessionM α) :
    Program α := do
  let session ← t.start m
  let (result, session) ← ExceptT.lift (body.run.run session)
  let (closed, _) ← ExceptT.lift (close.run.run session)
  match closed with
  | .error e => throw e
  | .ok () => Program.ofExcept result

end Mailroom.Imap
