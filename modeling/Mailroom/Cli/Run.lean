import Mailroom.Cli.Command
import Mailroom.Cli.Console
import Mailroom.Service
/-!
  Mailroom.Cli.Run
  ────────────────────────────────
  **CARRYING OUT A COMMAND LINE.**

  A command ends with an exit code; failures that the user can understand are
  printed, others end the program.
-/
namespace Mailroom.Cli

open Mailroom.Config Mailroom.Text

/-! ## §1. Commands as programs. -/

/-- What ends the program although nobody expects it. -/
inductive Crash where
  | config (f : Config.Failure)
  | failure (f : Failure)
  deriving Repr

/-- How a command line ends. -/
inductive Ending where
  | exit (code : Nat)
  /-- The command line is wrong, or empty. -/
  | usage (e : Option UsageError)
  | crash (c : Crash)
  deriving Repr

/-- What a command line did, and how it ended. -/
structure Outcome where
  acts : List Act
  ending : Ending
  deriving Repr

/-- A command as a program that acts and may end at any point. -/
abbrev CommandM (α : Type) : Type := ExceptT Ending (StateT (List Act) Dialogue) α

namespace CommandM

/-- Acts. -/
def act (a : Act) : CommandM Unit := ExceptT.lift (modify (· ++ [a]))

/-- Prints a line. -/
def say (text : String) : CommandM Unit := act (.print (.line text))

/-- Ends. -/
def stop {α : Type} (e : Ending) : CommandM α := throw e

/-- The outcome of a program. -/
def ask {α : Type} (p : Program α) : CommandM (Except Failure α) :=
  ExceptT.lift (StateT.lift p.run)

/-- Prints why a command failed and ends. -/
def fail {α : Type} (f : Failure) : CommandM α := do
  say ("\n[red]Error:[/red] " ++ f.message)
  stop (.exit 1)

/-- The result of a program; the failures for which `shown` holds are printed. -/
def resultOf {α : Type} (shown : Failure → Bool) (p : Program α) : CommandM α := do
  match ← ask p with
  | .ok a => return a
  | .error f => if shown f then fail f else stop (.crash (.failure f))

end CommandM

open CommandM

/-- What a command needs: where files are found, the environment, and what stands
before the command. -/
structure Surroundings where
  find : String → Found
  env : Environment
  global : Global

/-- Failures of the inputs as well. -/
def isShown (f : Failure) : Bool := f.isReported || f.isRejected

/-- The settings. -/
def settings (s : Surroundings) : CommandM Settings := do
  match load s.find s.global.config s.env with
  | .ok found => return found
  | .error f =>
    if f.isReported then
      say ("[red]Config error:[/red] " ++ f.message
        ++ "\n\nCopy config/config.yaml.example to config/config.yaml or pass --config.")
      stop (.exit 1)
    else stop (.crash (.config f))

/-- The service. -/
def service (s : Surroundings) : CommandM Service := do
  match Service.ofSettings (← settings s) with
  | .ok found => return found
  | .error f =>
    say ("[red]Error:[/red] " ++ f.message)
    stop (.exit 1)

/-! ## §2. Tables. -/

/-- A value in a cell of a table. -/
def cell : Json → String
  | .null => ""
  | v => v.plain

/-- The table of accounts. -/
def accountTable (entries : List Directory.Entry) : Printed :=
  .table s!"Mailboxes ({entries.length})" ["ID", "Email", "Name", "Status", "Domain"]
    (entries.map fun e => [toString e.id, cell e.email, e.name, cell e.status, cell e.domain])

/-- The table of a page of messages. -/
def messageTable (email folder : String) (p : Mail.Page) : Printed :=
  .table s!"{email} {folder} (page {p.page}/{p.totalPages}, {p.total} total)"
    ["UID", "Date", "From", "Subject", "Tags"]
    (p.messages.map fun m =>
      [toString m.uid, (m.date.map (·.minuteText)).getD "", m.sender, m.subject,
       " ".intercalate (Mail.sortedSet m.flags)])

/-- The counts of a row. -/
def countCells (count : Reply.Category → Nat) : List String :=
  Reply.Category.all.map fun c => toString (count c)

/-- The table of a scan. -/
def scanTable (r : Scan.Report) : Printed :=
  let name := String.ofList (r.scanId.toList.take 8)
  .table s!"Classification scan {name}... ({r.durationMs}ms)"
    (["Account", "Total"] ++ Reply.Category.all.map (·.name) ++ ["Error"])
    (r.results.map (fun a =>
      [cell a.account, toString a.total] ++ countCells a.count ++ [a.error.getD ""])
    ++ if 1 < r.results.length then
        [["[bold]All accounts[/bold]", toString (Scan.totalOver r.results)]
          ++ countCells (Scan.countOver r.results) ++ [""]]
      else [])

/-! ## §3. Each command. -/

/-- Checks the configuration. -/
def checkConfig (s : Surroundings) : CommandM Unit := do
  let shown := (s.global.config.map plainPath).getD usualPath
  say ("Validating config: [cyan]" ++ shown ++ "[/cyan]")
  match report s.find s.global.config s.env with
  | .error f => stop (.crash (.config f))
  | .ok (true, message) => say ("\n[green]✓[/green] " ++ message)
  | .ok (false, message) =>
    say ("\n[red]✗[/red] " ++ message)
    stop (.exit 1)

/-- Shows the accounts. -/
def showAccounts (s : Surroundings) : CommandM Unit := do
  act (.print (accountTable (← resultOf Failure.isReported (← service s).accounts)))

/-- Shows a page of a folder. -/
def showMessages (s : Surroundings) (email folder : String) (limit : Option Int) (page : Int)
    (tags : Option String) : CommandM Unit := do
  let found ← resultOf Failure.isReported
    ((← service s).messages email folder limit page tags)
  act (.print (messageTable email folder found))

/-- Changes the tags of a message; `verb` says what was done. -/
def changeTags (s : Surroundings) (change : Imap.Change) (verb email : String) (uid : Int)
    (tags : List String) (folder : String) : CommandM Unit := do
  let resolved ← resultOf isShown ((← service s).retag change email folder uid tags)
  say (s!"[green]✓[/green] {verb} {resolved}/{uid}: " ++ ", ".intercalate tags)

/-- Sends a message. -/
def sendMessage (s : Surroundings) (email : String) (r : Mail.Request) : CommandM Unit := do
  let d ← resultOf isShown ((← service s).send email r)
  if !d.accepted.isEmpty then
    say (s!"[green]✓[/green] Sent {d.messageId} to " ++ ", ".intercalate d.accepted)
  if !d.rejected.isEmpty then
    say ("[yellow]Rejected:[/yellow] " ++ ", ".intercalate d.rejected)
    if d.accepted.isEmpty then stop (.exit 1)

/-- Classifies the new replies. -/
def classify (s : Surroundings) (account : Option String) : CommandM Unit := do
  let report ← resultOf Failure.isReported ((← service s).classify account)
  act (.print (scanTable report))
  if !report.failed.isEmpty then stop (.exit 1)

/-- The flags in a list with commas. -/
def flagsIn (s : String) : List String :=
  ((splitOn (· == ',') s.toList).map fun cs => trim (String.ofList cs)).filter (· != "")

/-- Shows the structure of a filter, and what it says to some flags. -/
def checkFilter (expression : String) (flags : Option String) : CommandM Unit := do
  match Filter.parse expression with
  | .error e => fail (.filter e)
  | .ok e =>
    act (.print (.tree (.node ("[cyan]" ++ e.text ++ "[/cyan]") [filterTree e])))
    match flags with
    | none => return ()
    | some s =>
      let flags := Mail.sortedSet (flagsIn s)
      let shown := if flags.isEmpty then "(none)" else ", ".intercalate flags
      let verdict :=
        if e.holds flags then "[green]matches[/green]" else "[red]does not match[/red]"
      say s!"Flags: {shown} {verdict}"

/-- The name of the server for agents. -/
def serverName : String := "mailpool"

/-- Waits for an agent. -/
def waitForAgent (s : Surroundings) : CommandM Unit := do
  let found ← settings s
  act (.log found.server.logLevel false)
  act (.agents serverName)

/-- The host from which everybody can reach the server. -/
def everyHost : String := "0.0.0.0"

/-- Starts the server. -/
def startServer (s : Surroundings) (host : Option String) (port : Option Int) :
    CommandM Unit := do
  let found ← settings s
  let host := (host.filter (· != "")).getD found.server.host
  let port := (port.filter (· != 0)).getD found.server.port
  if host == everyHost && (found.server.apiKey.filter (· != "")).isNone then
    say ("[yellow]Warning:[/yellow] Binding to 0.0.0.0 without API_KEY exposes the "
      ++ "mailboxes to the network. Set API_KEY or use 127.0.0.1.")
  act (.log found.server.logLevel true)
  say s!"Starting server on [cyan]http://{host}:{port}[/cyan]"
  act (.serve host port found.server.logLevel)

/-- Carries out a command. -/
def Command.run (s : Surroundings) : Command → CommandM Unit
  | validateConfig => checkConfig s
  | accounts => showAccounts s
  | list email folder limit page tags => showMessages s email folder limit page tags
  | tag email uid tags folder => changeTags s .add "Tagged" email uid tags folder
  | untag email uid tags folder => changeTags s .remove "Untagged" email uid tags folder
  | send email request => sendMessage s email request
  | classify account => Cli.classify s account
  | filterCheck expression flags => checkFilter expression flags
  | agents => waitForAgent s
  | serve host port => startServer s host port

/-! ## §4. Command lines. -/

/-- The commands of a line as a program. -/
def program (find : String → Found) (env : Environment) (line : List String) : CommandM Unit := do
  match readLine line with
  | .error e => stop (.usage e)
  | .ok .help => return ()
  | .ok (.command global entry rest) =>
    act (.log (if global.debug then .debug else .info) false)
    match read entry.parameters rest with
    | .error e => stop (.usage (some e))
    | .ok .help => return ()
    | .ok (.values vs) => (entry.command vs).run { find, env, global }

/-- Carries out a command line. -/
def run (find : String → Found) (env : Environment) (line : List String) : Dialogue Outcome := do
  let (result, acts) ← (program find env line).run.run []
  match result with
  | .ok () => return { acts, ending := .exit 0 }
  | .error ending => return { acts, ending }

end Mailroom.Cli
