import Mailroom.Config.Check
import Mailroom.Yaml.Document
/-!
  Mailroom.Config.Load
  ────────────────────────────────
  **FROM A FILE AND THE ENVIRONMENT TO THE SETTINGS.**

  A file that is asked for, by an option or by the environment, has to exist; the
  usual file may be missing.  A variable of the environment that is not empty
  takes the place of its field.
-/
namespace Mailroom.Config

open Mailroom.Text Mailroom.Yaml

/-! ## §1. Files and variables. -/

/-- What is found at a path. -/
inductive Found where
  | nothing
  | folder
  | file (content : String)
  deriving Repr, DecidableEq

/-- The variables of the environment. -/
abbrev Environment := List (String × String)

/-- The value of a variable that is set and not empty. -/
def setValue? (env : Environment) (name : String) : Option String :=
  (env.lookup name).filter (· != "")

/-- The fields that a variable takes the place of. -/
def overrides : List (String × String × String) :=
  [("MAILPOOL_API_KEY", "directory", "api_key"), ("MAILPOOL_API_BASE", "directory", "api_base"),
   ("ANTHROPIC_API_KEY", "classifier", "api_key"), ("API_KEY", "server", "api_key"),
   ("IMAP_HOST", "imap", "default_host"), ("IMAP_PORT", "imap", "default_port")]

/-- The fields with one field of one section put to a text; a section that is no
mapping gives way. -/
def override (fs : Fields) (section_ name value : String) : Fields :=
  let inner := match Value.field? section_ fs with
    | some (.mapping inner) => inner
    | _ => []
  fs ++ [(.text section_, .mapping (inner ++ [(.text name, .text value)]))]

/-- The fields with the variables of the environment in their places. -/
def overlay (env : Environment) (fs : Fields) : Fields :=
  overrides.foldl (fun fs (source, section_, name) =>
    match setValue? env source with
    | some value => override fs section_ name value
    | none => fs) fs

/-! ## §2. Failures. -/

/-- Why there are no settings. -/
inductive Failure where
  | load (e : LoadError)
  | validation (e : ValidationError)
  /-- A scalar of the file that has no value, or that a message cannot name. -/
  | scalar (e : Fault)
  /-- A key of the file that is no text. -/
  | badKey
  /-- The path of the file is a folder. -/
  | folder (path : String)
  deriving Repr, DecidableEq

/-- The message for a failure. -/
def Failure.message : Failure → String
  | load e => e.message
  | validation e => e.message
  | scalar e => e.message
  | badKey => "keywords must be strings"
  | folder path => s!"[Errno 21] Is a directory: {quoted path}"

/-- A failure that tells what is wrong with the configuration. -/
def Failure.isReported : Failure → Bool
  | load _ | validation _ => true
  | _ => false

/-! ## §3. Paths. -/

/-- The parts of a path. -/
def pathParts (path : String) : List (List Char) :=
  (splitOn (· == '/') path.toList).filter fun p => !p.isEmpty && p != ['.']

/-- A path without empty parts and parts that stand for the folder itself. -/
def plainPath (path : String) : String :=
  let root := if path.toList.head? == some '/' then "/" else ""
  match pathParts path with
  | [] => if root == "" then "." else root
  | parts => root ++ "/".intercalate (parts.map String.ofList)

/-- The usual path of the configuration. -/
def usualPath : String := "config/config.yaml"

/-- The variable that states the path of the configuration. -/
def pathVariable : String := "MAILPOOL_MCP_CONFIG"

/-- The path that is asked for, if one is. -/
def askedPath? (path : Option String) (env : Environment) : Option String :=
  match path with
  | some p => some (plainPath p)
  | none => (setValue? env pathVariable).map plainPath

/-! ## §4. Settings. -/

/-- The fields of a configuration file. -/
def fieldsOfFile (path : String) : Found → Except Failure Fields
  | .nothing => .error (.load (.missingFile path))
  | .folder => .error (.folder path)
  | .file content =>
    match Yaml.load content with
    | .error .malformed => .error (.load (.unreadable path))
    | .error e => .error (.scalar e)
    | .ok .null => .ok []
    | .ok (.mapping fs) => .ok fs
    | .ok v => .error (.load (.notMapping v.typeName))

/-- Whether the message of a validation error can be written: a version is written out. -/
def ValidationError.isWritable : ValidationError → Bool
  | newerSchema version => (Nat.toDigits 10 version.natAbs).length ≤ Number.maxDigits
  | fields _ _ => true

/-- The failure that a validation error leads to. -/
def refused (e : ValidationError) : Failure :=
  if e.isWritable then .validation e else .scalar .unwritable

/-- Whether all keys are texts. -/
def haveTextKeys (fs : Fields) : Bool :=
  fs.all fun f => match f.1 with | .text _ => true | _ => false

/-- The settings that fields and the environment state. -/
def settingsOf (source : String) (env : Environment) (fs : Fields) : Except Failure Settings :=
  let fs := overlay env fs
  if haveTextKeys fs then (validate source fs).mapError refused else .error .badKey

/-- Loads the settings; `find` says what is at a path. -/
def load (find : String → Found) (path : Option String) (env : Environment) :
    Except Failure Settings :=
  match askedPath? path env with
  | some p => do settingsOf p env (← fieldsOfFile p (find p))
  | none =>
    match find usualPath with
    | .nothing => settingsOf "defaults" env []
    | found => do settingsOf usualPath env (← fieldsOfFile usualPath found)

/-! ## §5. Checking a file. -/

/-- Whether a key is set, in words. -/
def stateText (key : Option String) : String :=
  match key with
  | some k => if k == "" then "missing" else "set"
  | none => "missing"

/-- What is said about settings that are valid. -/
def Settings.summary (s : Settings) : String :=
  s!"Configuration valid (schema version {s.schemaVersion})\n"
    ++ s!"  - directory: {s.directory.apiBase} (api key {stateText s.directory.apiKey})\n"
    ++ s!"  - classifier: {s.classifier.model} (api key {stateText s.classifier.apiKey})\n"
    ++ s!"  - scan limits: inbox {s.scan.inboxLimit}, sent {s.scan.sentLimit}"

/-- Whether a configuration is valid, and what there is to say about it. -/
def report (find : String → Found) (path : Option String) (env : Environment) :
    Except Failure (Bool × String) :=
  match load find path env with
  | .ok s => .ok (true, s.summary)
  | .error (.load e) => .ok (false, "Load error: " ++ e.message)
  | .error (.validation e) => .ok (false, "Validation error: " ++ e.message)
  | .error e => .error e

/-! ## §6. Keys. -/

/-- A key that an operation needs. -/
def Settings.key? (s : Settings) (k : Key) : Option String :=
  (match k with
    | .directory => s.directory.apiKey
    | .classifier => s.classifier.apiKey).filter (· != "")

end Mailroom.Config
