import Mailroom.Number.Binary64
/-!
  Mailroom.Config.Settings
  ────────────────────────────────
  **THE SETTINGS OF THE PROGRAM AND THEIR DEFAULTS.**
-/
namespace Mailroom.Config

open Mailroom.Number

/-- How much is logged. -/
inductive LogLevel where
  | debug | info | warning | error
  deriving Repr, DecidableEq

/-- The name of a log level. -/
def LogLevel.name : LogLevel → String
  | debug => "DEBUG"
  | info => "INFO"
  | warning => "WARNING"
  | error => "ERROR"

/-- The log levels, from the most to the least talkative. -/
def LogLevel.all : List LogLevel := [debug, info, warning, error]

/-- The log level with a name. -/
def LogLevel.ofName? (s : String) : Option LogLevel := all.find? (·.name == s)

/-- Where the directory is, and how it is asked. -/
structure DirectorySettings where
  apiBase : String := "https://app.mailpool.io/v1/api"
  apiKey : Option String := none
  pageLimit : Int := 50
  timeout : Binary64 := .ofInt 30
  deriving Repr, DecidableEq

/-- The IMAP server of mailboxes that state none. -/
structure ImapSettings where
  defaultHost : String := "imap.mailpool.io"
  defaultPort : Int := 993
  timeout : Binary64 := .ofInt 30
  deriving Repr, DecidableEq

/-- How the classifier is asked. -/
structure ClassifierSettings where
  apiKey : Option String := none
  model : String := "claude-haiku-4-5-20251001"
  maxTokens : Int := 256
  maxRetries : Int := 3
  deriving Repr, DecidableEq

/-- How many messages a scan considers, and how often it runs. -/
structure ScanSettings where
  inboxLimit : Int := 50
  sentLimit : Int := 200
  intervalMinutes : Int := 0
  deriving Repr, DecidableEq

/-- How messages are listed. -/
structure MailSettings where
  previewLength : Int := 200
  defaultListLimit : Int := 20
  deriving Repr, DecidableEq

/-- How the program is served. -/
structure ServerSettings where
  apiKey : Option String := none
  host : String := "127.0.0.1"
  port : Int := 8000
  logLevel : LogLevel := .info
  deriving Repr, DecidableEq

/-- All settings. -/
structure Settings where
  schemaVersion : Int := 1
  directory : DirectorySettings := {}
  imap : ImapSettings := {}
  classifier : ClassifierSettings := {}
  scan : ScanSettings := {}
  mail : MailSettings := {}
  server : ServerSettings := {}
  deriving Repr, DecidableEq

end Mailroom.Config
