import Mailroom.Dialogue.Basic
import Mailroom.Imap.Flag
import Mailroom.Mail.Message
import Mailroom.Simulation.Script
import Mailroom.Text.Utf8
/-!
  Mailroom.Simulation.World
  ────────────────────────────────
  **A WORLD WITH MAILBOXES IN IT.**

  The world holds the accounts of a directory with their folders and answers as
  the servers would: it finds, shows and flags messages and takes new ones.
  Faults can be laid at any command; each counts the commands that concern it and
  fires at its turn.
-/
namespace Mailroom.Simulation

open Mailroom.Imap Mailroom.Mail Mailroom.Text

/-! ## §1. Accounts. -/

/-- A message as a server keeps it. -/
structure Stored where
  uid : Int
  flags : List String
  raw : Octets
  deriving Repr, DecidableEq

/-- A message with a flag changed. -/
def Stored.change (change : Change) (flag : String) (m : Stored) : Stored :=
  match change with
  | .add => if m.flags.contains flag then m else { m with flags := m.flags ++ [flag] }
  | .remove => { m with flags := m.flags.filter (· != flag) }

/-- A folder with its messages in the order in which they came. -/
structure Box where
  name : String
  messages : List Stored
  deriving Repr, DecidableEq

/-- An account: its record in the directory, its folders, an answer of its own to
the listing of folders, the recipients that its server refuses, and whether a
search for messages without a keyword finds all of them. -/
structure Account where
  record : Json
  boxes : List Box
  listing : Option (List Item) := none
  refuses : List String := []
  brokenSearch : Bool := false
  deriving Repr

namespace Account

/-- A field of the record, if it is given. -/
def given? (a : Account) (key : String) : Option Json := (a.record.get? key).filter Json.isGiven

/-- The address of an account. -/
def email (a : Account) : Json := (a.record.get? "email").getD .null

/-- The user that logs in to the server whose fields start with `stem`. -/
def user (a : Account) (stem : String) : Json := (a.given? (stem ++ "Username")).getD a.email

/-- The folder with a name. -/
def box? (a : Account) (name : String) : Option Box := a.boxes.find? (·.name == name)

/-- The account with the messages of a folder changed. -/
def update (a : Account) (name : String) (f : List Stored → List Stored) : Account :=
  { a with boxes := a.boxes.map fun b =>
      if b.name == name then { b with messages := f b.messages } else b }

end Account

/-! ## §2. Faults. -/

/-- Where a fault can be laid. -/
inductive Point where
  | connect | startTls | login | logout | select | list | append | search | fetch | store
  | smtpConnect | smtpStartTls | smtpLogin | smtpSend
  deriving Repr, DecidableEq

/-- What happens when a fault fires. -/
inductive Effect where
  /-- The connection breaks or the server reports an error. -/
  | broken (reason : String)
  /-- The server answers with another status than `OK`. -/
  | refused (status : String) (detail : Octets)
  /-- All recipients of a letter are refused. -/
  | refusedAll
  deriving Repr, DecidableEq

/-- A fault: it fires when its turn has come, always if the turn is zero. -/
structure Fault where
  point : Point
  effect : Effect
  turn : Nat := 1
  account : Option String := none
  counted : Nat := 0
  deriving Repr, DecidableEq

/-- Whether a fault concerns a command on the connection of an account. -/
def Fault.concerns (f : Fault) (p : Point) (account : Option Json) : Bool :=
  f.point == p && match f.account with
    | none => true
    | some email => match account with
      | some (.text e) => e == email
      | _ => false

/-- The effect of the first fault that fires at a command, and the faults after
it. -/
def fire (p : Point) (account : Option Json) : List Fault → Option Effect × List Fault
  | [] => (none, [])
  | f :: rest =>
    if f.concerns p account then
      let f := { f with counted := f.counted + 1 }
      if f.turn == 0 || f.counted == f.turn then (some f.effect, f :: rest)
      else
        let (effect, rest) := fire p account rest
        (effect, f :: rest)
    else
      let (effect, rest) := fire p account rest
      (effect, f :: rest)

/-! ## §3. The world. -/

/-- The world: accounts, judgements and responses to come, faults, whether plain
connections can be encrypted, the account and the folder of the IMAP connection,
the account of the SMTP connection, and what was asked, the last first. -/
structure World where
  accounts : List Account := []
  judgements : List (Except String (List Reply.Block)) := []
  overrides : List (Option Directory.Outcome) := []
  faults : List Fault := []
  offersTls : Bool := false
  user : Option Nat := none
  folder : Option String := none
  smtpUser : Option Nat := none
  asked : List Command := []

namespace World

/-- The number of the account whose user for a server logs in. -/
def accountOf? (w : World) (stem : String) (user : Json) : Option Nat :=
  w.accounts.findIdx? fun a => a.user stem == user

/-- The account of the IMAP connection. -/
def current? (w : World) : Option Account := w.user.bind fun i => w.accounts[i]?

/-- The address of an account. -/
def emailAt (w : World) (i : Option Nat) : Option Json :=
  (i.bind fun i => w.accounts[i]?).map (·.email)

/-- The folder of the IMAP connection. -/
def currentBox? (w : World) : Option Box := do
  let a ← w.current?
  a.box? (← w.folder)

/-- The world with the account of the IMAP connection changed. -/
def updateCurrent (w : World) (f : Account → Account) : World :=
  match w.user with
  | some i => { w with accounts := w.accounts.modify i f }
  | none => w

/-- The effect of a fault at a command, if one fires. -/
def trip (w : World) (p : Point) (account : Option Nat) : Option Effect × World :=
  let (effect, faults) := fire p (w.emailAt account) w.faults
  (effect, { w with faults })

/-! ## §4. The directory. -/

/-- What is behind the last slash of a place. -/
def lastPart (url : String) : String :=
  String.ofList (url.toList.reverse.takeWhile (· != '/')).reverse

/-- A response that carries a record. -/
def found (body : Json) : Directory.Outcome :=
  .response { status := 200, reason := "OK", headers := [], body := some body }

/-- The response where there is nothing. -/
def notFound : Directory.Outcome :=
  .response { status := 404, reason := "Not Found", headers := [], body := some (.object []) }

/-- The record at a place. -/
def recordAt (w : World) (url : String) : Directory.Outcome :=
  if lastPart url == "mailboxes" then
    found (.object [("data", .list (w.accounts.map (·.record)))])
  else
    match w.accounts.find? fun a => ((a.record.get? "id").map Json.plain) == some (lastPart url) with
    | some a => found a.record
    | none => notFound

/-- The answer to a request, and the world after it. -/
def get (w : World) (r : Directory.Request) : Directory.Outcome × World :=
  match w.overrides with
  | some outcome :: rest => (outcome, { w with overrides := rest })
  | none :: rest => (w.recordAt r.url, { w with overrides := rest })
  | [] => (w.recordAt r.url, w)

/-! ## §5. IMAP. -/

/-- What a server says about a folder that does not exist. -/
def noFolder : String := "Mailbox does not exist"

/-- An answer with one line. -/
def line (status text : String) : Response := { status, items := [.line (encode text)] }

/-- The words of a list in parentheses. -/
def wordsIn (s : String) : List String :=
  (splitRuns (fun c => c == '(' || c == ')' || c == ' ') s.toList).map String.ofList

/-- The name that a quoted name stands for. -/
def unquotedName (s : String) : String := String.ofList (go (s.toList.drop 1).dropLast)
where
  /-- Takes the backslashes before quotes and backslashes away. -/
  go : List Char → List Char
    | '\\' :: c :: rest => c :: go rest
    | c :: rest => c :: go rest
    | [] => []

/-- The line for a folder in a listing. -/
def folderLine (b : Box) : Item := .line (encode ("(\\HasNoChildren) \"/\" \"" ++ b.name ++ "\""))

/-- The flag that a search key for a system flag means. -/
def systemFlag (key : String) : String :=
  (["\\Seen", "\\Answered", "\\Flagged", "\\Deleted", "\\Draft"].find?
    (systemKey? · == some key)).getD ""

/-- Whether a criterion finds a message. -/
def finds (brokenSearch : Bool) (c : Criterion) (m : Stored) : Bool :=
  match c with
  | .all => true
  | .keyword flag => m.flags.contains flag
  | .unkeyword flag => brokenSearch || !m.flags.contains flag
  | .system key => m.flags.contains (systemFlag key)

/-- A message in the answer to a fetch. -/
def fetchedItems (m : Stored) : List Item :=
  let flags := " ".intercalate (sortedSet m.flags)
  [.group [encode s!"1 (UID {m.uid} FLAGS ({flags}) BODY[] \x7b{m.raw.length}\x7d", m.raw],
   .line (encode ")")]

/-- The UID of the next message of a folder. -/
def nextUid (messages : List Stored) : Int := (messages.map (·.uid)).foldl max 0 + 1

/-- The answer to a command on the connection of an account, and the world after
it. -/
def perform (w : World) (a : Account) : Imap.Command → Response × World
  | .select quoted _ =>
    match a.box? (unquotedName quoted) with
    | some b => (line okStatus (toString b.messages.length), { w with folder := some b.name })
    | none => (line "NO" noFolder, { w with folder := none })
  | .list =>
    ({ status := okStatus, items := a.listing.getD (a.boxes.map folderLine) }, w)
  | .append quoted flags raw =>
    let name := unquotedName quoted
    match a.box? name with
    | some b =>
      let new : Stored := { uid := nextUid b.messages, flags := wordsIn flags, raw }
      (line okStatus "", w.updateCurrent (·.update name (· ++ [new])))
    | none => (line "NO" ("[TRYCREATE] " ++ noFolder), w)
  | .search c =>
    match w.currentBox? with
    | some b =>
      let uids := (b.messages.filter (finds a.brokenSearch c)).map (·.uid)
      (line okStatus (" ".intercalate (uids.map toString)), w)
    | none => (line "NO" noFolder, w)
  | .fetch uids =>
    match w.currentBox? with
    | some b =>
      let messages := (b.messages.filter fun m => uids.contains m.uid).mergeSort
        fun m n => m.uid ≤ n.uid
      let items := if messages.isEmpty then [.absent] else messages.flatMap fetchedItems
      ({ status := okStatus, items }, w)
    | none => (line "NO" noFolder, w)
  | .store uid change flag =>
    match w.folder with
    | some name =>
      ({ status := okStatus, items := [.absent] },
        w.updateCurrent (·.update name fun ms =>
          ms.map fun m => if m.uid == uid then m.change change flag else m))
    | none => (line "NO" noFolder, w)
  | .startTls | .login _ _ | .logout => (line okStatus "", w)

/-- Where a fault for a command is laid. -/
def pointOf : Imap.Command → Point
  | .startTls => .startTls
  | .login _ _ => .login
  | .logout => .logout
  | .select _ _ => .select
  | .list => .list
  | .append _ _ _ => .append
  | .search _ => .search
  | .fetch _ => .fetch
  | .store _ _ _ => .store

/-- An effect as the outcome of a command on an IMAP connection. -/
def imapOutcome : Effect → Except Imap.Fault Response
  | .broken reason => .error (.connection reason)
  | .refused status detail => .ok { status, items := [.line detail] }
  | .refusedAll => .error (.foreign "")

/-- What is said to a user whom nobody knows. -/
def unknownUser : String := "unknown user"

/-- The outcome of a command on the IMAP connection, and the world after it. -/
def imap (w : World) (c : Imap.Command) : Except Imap.Fault Response × World :=
  let account := match c with
    | .login user _ => w.accountOf? "imap" user
    | _ => w.user
  match w.trip (pointOf c) account with
  | (some effect, w) => (imapOutcome effect, w)
  | (none, w) =>
    match c with
    | .login _ _ =>
      match account with
      | some i => (.ok (line okStatus ""), { w with user := some i })
      | none => (.error (.connection unknownUser), w)
    | .startTls | .logout => (.ok (line okStatus ""), w)
    | c =>
      match w.current? with
      | some a =>
        let (r, w) := w.perform a c
        (.ok r, w)
      | none => (.ok (line "NO" unknownUser), w)

/-- The outcome of opening an IMAP connection, and the world after it. -/
def connect (w : World) (e : Endpoint) : Except Imap.Fault (List String) × World :=
  match { w with user := none, folder := none }.trip .connect none with
  | (some (.broken reason), w) => (.error (.connection reason), w)
  | (_, w) => (.ok (if w.offersTls && !e.secure then ["STARTTLS"] else []), w)

/-! ## §6. SMTP. -/

/-- The outcome of sending to recipients some of whom are refused. -/
def sendOutcome (refuses recipients : List String) : Except Smtp.Fault Smtp.Response :=
  let refused := recipients.filter refuses.contains
  if refused.length == recipients.length then .error (.allRefused refused)
  else .ok { refused := refused }

/-- An effect as the outcome of a step for some recipients. -/
def smtpOutcome (recipients : List String) : Effect → Except Smtp.Fault Smtp.Response
  | .broken reason => .error (.connection reason)
  | .refused _ _ => .ok {}
  | .refusedAll => .error (.allRefused recipients)

/-- Takes a step at which a fault can be laid. -/
def smtpStep (w : World) (p : Point) (recipients : List String)
    (otherwise : World → Except Smtp.Fault Smtp.Response) :
    Except Smtp.Fault Smtp.Response × World :=
  match w.trip p w.smtpUser with
  | (some effect, w) => (smtpOutcome recipients effect, w)
  | (none, w) => (otherwise w, w)

/-- The outcome of a step of an SMTP exchange, and the world after it. -/
def smtp (w : World) : Smtp.Command → Except Smtp.Fault Smtp.Response × World
  | .connect _ => { w with smtpUser := none }.smtpStep .smtpConnect [] fun _ => .ok {}
  | .hello => (.ok { offersTls := w.offersTls }, w)
  | .startTls => w.smtpStep .smtpStartTls [] fun _ => .ok {}
  | .login user _ =>
    { w with smtpUser := w.accountOf? "smtp" user }.smtpStep .smtpLogin [] fun _ => .ok {}
  | .send _ _ recipients => w.smtpStep .smtpSend recipients fun w =>
      sendOutcome (((w.smtpUser.bind fun i => w.accounts[i]?).map (·.refuses)).getD []) recipients
  | .quit => (.ok {}, w)

/-! ## §7. Every question. -/

/-- The judgement where none is left: no category applies. -/
def noCategory : Except String (List Reply.Block) :=
  .ok [.toolCall Reply.toolName (.object [("category", .text Reply.Category.none.name)])]

/-- The answer to a question, and the world after it. -/
def answer (c : Mailroom.Command) (w : World) : c.Answer × World :=
  let w := { w with asked := c :: w.asked }
  match c with
  | .get r => w.get r
  | .scanId => (Script.someScanId, w)
  | .clock => (0, w)
  | .stamp => (Script.someStamp, w)
  | .draw => (Script.half, w)
  | .sleep _ => ((), w)
  | .classify _ =>
    match w.judgements with
    | j :: rest => (j, { w with judgements := rest })
    | [] => (noCategory, w)
  | .connect e => w.connect e
  | .imap c => w.imap c
  | .smtp c => w.smtp c

end World

end Mailroom.Simulation
