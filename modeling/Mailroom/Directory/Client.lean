import Mailroom.Directory.Record
import Mailroom.Failure
/-!
  Mailroom.Directory.Client
  ────────────────────────────────
  **ASKING THE DIRECTORY.**

  A request whose outcome may change (too many requests, a fault of the server,
  or no response) is repeated up to `maxRetries` times, with a pause before each
  repetition.  The pause is the number of seconds that the server asks for or
  the next entry of `delays`, up to a fifth longer or shorter.
-/
namespace Mailroom.Directory

open Mailroom.Number Mailroom.Text

/-! ## §1. Clients. -/

/-- The base of the directory where none is configured. -/
def defaultBase : String := "https://app.mailpool.io/v1/api"

/-- A text without the slashes at its end. -/
def withoutSlashes (s : String) : String := String.ofList (dropEndWhile (· == '/') s.toList)

/-- A client of the directory. -/
structure Client where
  key : String
  base : String := defaultBase
  pageLimit : Int := 50
  timeout : Binary64 := .ofInt 30
  maxRetries : Int := 3
  delays : List Binary64 := [.ofInt 1, .ofInt 2, .ofInt 4]
  deriving Repr

/-- The place of an endpoint. -/
def Client.urlOf (c : Client) (endpoint : String) : String :=
  withoutSlashes c.base ++ "/" ++ String.ofList (endpoint.toList.dropWhile (· == '/'))

/-! ## §2. Pauses. -/

/-- The number of seconds that the server asks for, if it asks for a pause. -/
def askedPause? (r : Response) : Option Binary64 :=
  if r.status == 429 then (r.header? "Retry-After").bind fun s => readDecimal? s.toList else none

/-- The length of the pause before repetition `index`, the first being 0; the
last entry of `delays` serves for all that follow. -/
def Client.basePause (c : Client) (index : Nat) (r? : Option Response) : Binary64 :=
  (r?.bind askedPause?).getD (c.delays.getD (min index (c.delays.length - 1)) (.ofInt 0))

/-- A pause of `base` seconds, shifted by a random number from 0 to 1 by up to a
fifth. -/
def jittered (base random : Binary64) : Binary64 :=
  base.add ((base.mul (.ofDecimal false 2 (-1))).mul (((Binary64.ofInt 2).mul random).sub (.ofInt 1)))

/-- Pauses before repetition `index`. -/
def Client.pause (c : Client) (index : Nat) (r? : Option Response) : Program Unit := do
  let random ← Program.ask .draw
  Program.ask (.sleep (jittered (c.basePause index r?) random))

/-! ## §3. Requests. -/

/-- Whether a status may be another one at the next attempt. -/
def isTransient (status : Int) : Bool := status == 429 || (500 ≤ status && status < 600)

/-- The error that a response stands for. -/
def errorOf (endpoint : String) (r : Response) : Error :=
  if r.status == 401 || r.status == 403 then .rejectedKey r.status r.reason
  else if r.status == 404 then .nothingAt endpoint
  else .refused r.status r.reason

/-- Makes up to `left` attempts at a request; `index` were made before. -/
def Client.attempts (c : Client) (endpoint : String) (params : Json) :
    (left index : Nat) → Program Json
  | 0, _ => throw (.directory (.noAttempt endpoint c.maxRetries))
  | left + 1, index => do
    let outcome ← Program.ask (.get
      { url := c.urlOf endpoint, key := c.key, params, timeout := c.timeout })
    match outcome with
    | .foreign reason => throw (.foreign reason)
    | .refused reason => throw (.request reason)
    | .unreachable reason =>
      if left == 0 then throw (.directory (.unreachable (withoutSlashes c.base) reason))
      else
        c.pause index none
        c.attempts endpoint params left (index + 1)
    | .response r =>
      if r.status < 400 then
        match r.body with
        | some body => pure body
        | none => throw (.directory (.unreadable endpoint r.status))
      else if isTransient r.status && left != 0 then
        c.pause index (some r)
        c.attempts endpoint params left (index + 1)
      else throw (.directory (errorOf endpoint r))

/-- The record at an endpoint. -/
def Client.request (c : Client) (endpoint : String) (params : Json) : Program Json :=
  c.attempts endpoint params (c.maxRetries + 1).toNat 0

/-! ## §4. Mailboxes. -/

/-- The items of a value: those of a list, the keys of an object, the characters
of a text. -/
def itemsOf : Json → Except Json.Misuse (List Json)
  | .list items => .ok items
  | .object fields => .ok (fields.map fun f => .text f.1)
  | .text s => .ok (s.toList.map fun c => .text (String.singleton c))
  | v => .error (.noItems v.shape)

/-- The entries of a listing. -/
def entriesOf (payload : Json) : Except Json.Misuse (List Entry) :=
  match payload with
  | .object fields => do
    (← itemsOf ((Json.field? "data" fields).getD (.list []))).mapM Entry.ofJson
  | _ => .ok []

/-- The first page of the listing. -/
def Client.list (c : Client) : Program (List Entry) := do
  let payload ← c.request "mailboxes"
    (.object [("limit", .int c.pageLimit), ("offset", .int 0)])
  Program.ofMisuse (entriesOf payload)

/-- The mailbox with a number. -/
def Client.mailbox (c : Client) (id : Int) : Program Mailbox := do
  Program.ofMisuse (Mailbox.ofJson (← c.request s!"mailboxes/{id}" .null))

/-- Whether an entry has an address, given in lower case. -/
def Entry.hasAddress (wanted : String) (e : Entry) : Except Json.Misuse Bool := do
  return lower (← e.email.textFor "lower") == wanted

/-- The first entry with an address, given in lower case. -/
def findAddress? (wanted : String) : List Entry → Except Json.Misuse (Option Entry)
  | [] => .ok none
  | e :: rest => do
    if ← e.hasAddress wanted then return some e else findAddress? wanted rest

/-- The mailbox with an address; case and surrounding white space do not
matter. -/
def Client.mailboxAt (c : Client) (email : String) : Program Mailbox := do
  let entries ← c.list
  match ← Program.ofMisuse (findAddress? (lower (trim email)) entries) with
  | some e => c.mailbox e.id
  | none => throw (.directory (.unknownAddress email))

end Mailroom.Directory
