import Mailroom.Cli.Grammar
import Mailroom.Mail.Outgoing
/-!
  Mailroom.Cli.Command
  ────────────────────────────────
  **THE COMMANDS OF THE COMMAND LINE.**

      mailroom [--debug] [--config FILE] COMMAND [OPTIONS] [ARGUMENTS]
-/
namespace Mailroom.Cli

open Mailroom.Text

/-! ## §1. Commands. -/

/-- A command with what it was given. -/
inductive Command where
  | validateConfig
  | accounts
  | list (email folder : String) (limit : Option Int) (page : Int) (tags : Option String)
  | tag (email : String) (uid : Int) (tags : List String) (folder : String)
  | untag (email : String) (uid : Int) (tags : List String) (folder : String)
  | send (email : String) (request : Mail.Request)
  | classify (account : Option String)
  | filterCheck (expression : String) (flags : Option String)
  | agents
  | serve (host : Option String) (port : Option Int)
  deriving Repr

/-- A command by name: its parameters, and the command for their values. -/
structure Entry where
  name : String
  parameters : List Parameter := []
  command : Values → Command

/-- A text for a key that is known to have one. -/
def Values.text (vs : Values) (key : String) : String := (vs.text? key).getD ""

/-- An option whose value is a text. -/
def textOption (key : String) : Parameter := .option key ["--" ++ key] .text false false

/-- The option for a folder. -/
def folderOption : Parameter := textOption "folder"

/-- The argument for the address of a mailbox. -/
def emailArgument : Parameter := .argument "email" .text false

/-- The folder that is named, or the inbox. -/
def Values.folder (vs : Values) : String := (vs.text? "folder").getD "INBOX"

/-- The parameters of a change of tags. -/
def taggingParameters : List Parameter :=
  [emailArgument, .argument "uid" .integer false, .argument "tags" .text true, folderOption]

/-- The request that values describe. -/
def Values.request (vs : Values) : Mail.Request where
  addressees := vs.texts "to"
  subject := vs.text "subject"
  text := vs.text? "text"
  html := vs.text? "html"
  cc := vs.texts "cc"
  bcc := vs.texts "bcc"

/-- All commands. -/
def entries : List Entry :=
  [{ name := "validate-config", command := fun _ => .validateConfig },
   { name := "accounts", command := fun _ => .accounts },
   { name := "list"
     parameters := [emailArgument, folderOption,
       .option "limit" ["--limit"] (.atLeast 1) false false,
       .option "page" ["--page"] .integer false false, textOption "tags"]
     command := fun vs => .list (vs.text "email") vs.folder (vs.int? "limit")
       ((vs.int? "page").getD 1) (vs.text? "tags") },
   { name := "tag", parameters := taggingParameters
     command := fun vs =>
       .tag (vs.text "email") ((vs.int? "uid").getD 0) (vs.texts "tags") vs.folder },
   { name := "untag", parameters := taggingParameters
     command := fun vs =>
       .untag (vs.text "email") ((vs.int? "uid").getD 0) (vs.texts "tags") vs.folder },
   { name := "send"
     parameters := [emailArgument, .option "to" ["--to"] .text true true,
       .option "subject" ["--subject"] .text true false, textOption "text", textOption "html",
       .option "cc" ["--cc"] .text false true, .option "bcc" ["--bcc"] .text false true]
     command := fun vs => .send (vs.text "email") vs.request },
   { name := "classify", parameters := [textOption "account"]
     command := fun vs => .classify (vs.text? "account") },
   { name := "filter-check"
     parameters := [.argument "expression" .text false, textOption "flags"]
     command := fun vs => .filterCheck (vs.text "expression") (vs.text? "flags") },
   { name := "mcp", command := fun _ => .agents },
   { name := "serve"
     parameters := [textOption "host", .option "port" ["--port"] .integer false false]
     command := fun vs => .serve (vs.text? "host") (vs.int? "port") }]

/-! ## §2. What stands before a command. -/

/-- What is said to all commands: whether to log more, and where the
configuration is. -/
structure Global where
  debug : Bool := false
  config : Option String := none
  deriving Repr, DecidableEq

/-- The options before a command. -/
def globalParameters : List Parameter :=
  [.switch "debug" "--debug" "--no-debug", .option "config" ["--config", "-c"] .text false false]

/-- What a command line says: help is asked for, or there is a command with its
own part of the line. -/
inductive Line where
  | help
  | command (global : Global) (entry : Entry) (rest : List String)

/-- What the words before a command say. -/
def globalOf (w : Words) : Global where
  debug := ((w.given.filter (·.1 == "debug")).getLast?.map (·.2)) == some onText
  config := (w.given.filter (·.1 == "config")).getLast?.map (·.2)

/-- Reads a command line up to its command; nothing is wrong with an empty one,
but it does nothing. -/
def readLine (line : List String) : Except (Option UsageError) Line :=
  if line.isEmpty then .error none
  else
    match wordsOf globalParameters false {} line with
    | .error e => .error (some e)
    | .ok w =>
      if w.help then .ok .help
      else
        match w.arguments with
        | [] => .error (some .missingCommand)
        | name :: rest =>
          match entries.find? (·.name == name) with
          | some entry => .ok (.command (globalOf w) entry rest)
          | none =>
            if isOption name then .error (some (.noSuchOption name []))
            else .error (some (.noSuchCommand name (closest name (entries.map (·.name)))))

end Mailroom.Cli
