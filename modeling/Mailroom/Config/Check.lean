import Mailroom.Config.Error
import Mailroom.Config.Settings
import Mailroom.Number.Reading
import Mailroom.Text.Utf8
import Mailroom.Yaml.Value
/-!
  Mailroom.Config.Check
  ────────────────────────────────
  **CHECKING VALUES AGAINST THE SCHEMA.**

  A field that is missing has its default.  A value of another type is accepted
  where it says the same: a truth value or a whole decimal for an integer, a text
  that spells a number for a number.  Every violation is reported, in the order
  of the schema.
-/
namespace Mailroom.Config

open Mailroom.Number Mailroom.Text Mailroom.Yaml

/-! ## §1. Values that have been checked. -/

/-- A value, which is meant only where there are no violations. -/
structure Checked (α : Type) where
  value : α
  violations : List (String × Violation) := []

instance : Monad Checked where
  pure a := { value := a }
  bind c f := { value := (f c.value).value, violations := c.violations ++ (f c.value).violations }

/-- The value, or all violations. -/
def Checked.toExcept {α : Type} (c : Checked α) : Except (List (String × Violation)) α :=
  if c.violations.isEmpty then .ok c.value else .error c.violations

/-! ## §2. Texts. -/

/-- A text. -/
def text : Value → Except Violation String
  | .text s => .ok s
  | .octets bs => if isUtf8 bs then .ok (decode bs) else .error .notUnicode
  | _ => .error .notText

/-- A text or nothing. -/
def optionalText : Value → Except Violation (Option String)
  | .null => .ok none
  | v => (text v).map some

/-- A text without the slashes at its end. -/
def withoutSlashes (s : String) : String := String.ofList (dropEndWhile (· == '/') s.toList)

/-- Whether a text starts like the place of a web service. -/
def isWebPlace (s : String) : Bool :=
  (dropPrefix? "http://".toList s.toList).isSome || (dropPrefix? "https://".toList s.toList).isSome

/-- The base of the directory. -/
def base (v : Value) : Except Violation String := do
  let s ← text v
  if isWebPlace s then return withoutSlashes s else throw .badBase

/-- The name of a log level. -/
def logLevel : Value → Except Violation LogLevel
  | .text s =>
    match LogLevel.ofName? s with
    | some l => .ok l
    | none => .error .badLogLevel
  | _ => .error .badLogLevel

/-! ## §3. Numbers. -/

/-- The digits at the start of a text, single underscores between them, and the
rest. -/
def asciiDigits : List Char → List Char × List Char
  | '_' :: c :: cs =>
    if isDigit c then
      let (ds, rest) := asciiDigits cs
      (c :: ds, rest)
    else ([], '_' :: c :: cs)
  | c :: cs =>
    if isDigit c then
      let (ds, rest) := asciiDigits cs
      (c :: ds, rest)
    else ([], c :: cs)
  | [] => ([], [])

/-- The whole number that a text spells; a fraction may have zeros only. -/
def wholeNumber? (cs : List Char) : Option Int :=
  let (negative, body) := takeSign cs
  let (digits, rest) := if body.head? == some '_' then ([], body) else asciiDigits body
  let whole := match rest with
    | [] => true
    | '.' :: zeros => zeros.all (· == '0')
    | _ => false
  if digits.isEmpty || !whole then none
  else
    let n : Int := ofDigits (digits.map fun d => d.toNat - 48)
    some (if negative then -n else n)

/-- The integer that a text spells. -/
def integerText (s : String) : Except Violation Int :=
  let cs := trimWhile isBlank s.toList
  if maxDigits < (encodeChars cs).length then .error .tooManyDigits
  else
    match wholeNumber? cs with
    | some n => .ok n
    | none => .error .notInteger

/-- The bound of the integers that a decimal may state. -/
def decimalBound : Int := 0x8000000000000000

/-- The integer that a decimal states. -/
def wholeDecimal (x : Binary64) : Except Violation Int :=
  match x.truncate? with
  | none => .error .notFinite
  | some n =>
    if !x.isIntegral then .error .fractional
    else if n.natAbs < decimalBound then .ok n
    else .error .tooManyDigits

/-- An integer. -/
def integer : Value → Except Violation Int
  | .int n => .ok n
  | .bool b => .ok (if b then 1 else 0)
  | .float x => wholeDecimal x
  | .text s => integerText s
  | .octets bs => if isUtf8 bs then integerText (decode bs) else .error .notInteger
  | _ => .error .notInteger

/-- An integer between two bounds; the upper one may be missing. -/
def within (least : Int) (greatest : Option Int) (v : Value) : Except Violation Int := do
  let n ← integer v
  match greatest with
  | some g => if g < n then throw (.above g)
  | none => pure ()
  if n < least then throw (.below least)
  return n

/-- The decimal that a text spells in ASCII without underscores. -/
def plainDecimal? (cs : List Char) : Option Binary64 :=
  if cs.all fun c => 32 < c.toNat && c.toNat < 127 && c != '_' then readDecimal? cs else none

/-- A text without its underscores, which stand alone and inside. -/
def withoutBars? (cs : List Char) : Option (List Char) :=
  if cs.head? == some '_' || cs.getLast? == some '_' || occursIn "__".toList cs || !cs.contains '_'
  then none
  else some (cs.filter (· != '_'))

/-- The decimal that a text spells. -/
def decimalText? (s : String) : Option Binary64 :=
  match plainDecimal? (trimWhile isBlank s.toList) with
  | some x => some x
  | none => (withoutBars? s.toList).bind fun cs => plainDecimal? (trimWhile isBlank cs)

/-- A decimal. -/
def decimal : Value → Except Violation Binary64
  | .float x => .ok x
  | .int n =>
    match Binary64.ofInt n with
    | .infinite _ => .error .notNumber
    | x => .ok x
  | .bool b => .ok (.ofInt (if b then 1 else 0))
  | .text s => (decimalText? s).elim (.error .notNumeral) .ok
  | .octets bs => (decimalText? (decode bs)).elim (.error .notNumeral) .ok
  | _ => .error .notNumber

/-- A decimal above zero. -/
def positive (v : Value) : Except Violation Binary64 := do
  let x ← decimal v
  if x.isZero || x.lt (.zero false) then throw .notPositive
  return x

/-! ## §4. Fields and sections. -/

/-- The fields of a section. -/
abbrev Fields := List (Value × Value)

/-- The field of a section, read with `read`; `initial` where it is missing. -/
def field {α : Type} (section_ : String) (fields : Fields) (name : String) (initial : α)
    (read : Value → Except Violation α) : Checked α :=
  match Value.field? name fields with
  | none => pure initial
  | some v =>
    match read v with
    | .ok a => pure a
    | .error e => { value := initial, violations := [(section_ ++ name, e)] }

/-- A section, read with `read`; its default where it is missing. -/
def sectionOf {α : Type} (fields : Fields) (name type : String) (initial : α)
    (read : Fields → Checked α) : Checked α :=
  match Value.field? name fields with
  | none => pure initial
  | some (.mapping inner) => read inner
  | some _ => { value := initial, violations := [(name, .notSection type)] }

/-- The settings of the directory. -/
def directory (fs : Fields) : Checked DirectorySettings := do
  let d : DirectorySettings := {}
  let apiBase ← field "directory." fs "api_base" d.apiBase base
  let apiKey ← field "directory." fs "api_key" d.apiKey optionalText
  let pageLimit ← field "directory." fs "page_limit" d.pageLimit (within 1 (some 500))
  let timeout ← field "directory." fs "timeout_seconds" d.timeout positive
  return { apiBase, apiKey, pageLimit, timeout }

/-- The settings of IMAP. -/
def imap (fs : Fields) : Checked ImapSettings := do
  let d : ImapSettings := {}
  let defaultHost ← field "imap." fs "default_host" d.defaultHost text
  let defaultPort ← field "imap." fs "default_port" d.defaultPort (within 1 (some 65535))
  let timeout ← field "imap." fs "timeout_seconds" d.timeout positive
  return { defaultHost, defaultPort, timeout }

/-- The settings of the classifier. -/
def classifier (fs : Fields) : Checked ClassifierSettings := do
  let d : ClassifierSettings := {}
  let apiKey ← field "classifier." fs "api_key" d.apiKey optionalText
  let model ← field "classifier." fs "model" d.model text
  let maxTokens ← field "classifier." fs "max_tokens" d.maxTokens (within 16 (some 4096))
  let maxRetries ← field "classifier." fs "max_retries" d.maxRetries (within 0 (some 10))
  return { apiKey, model, maxTokens, maxRetries }

/-- The settings of scans. -/
def scan (fs : Fields) : Checked ScanSettings := do
  let d : ScanSettings := {}
  let inboxLimit ← field "scan." fs "inbox_limit" d.inboxLimit (within 1 (some 500))
  let sentLimit ← field "scan." fs "sent_limit" d.sentLimit (within 1 (some 2000))
  let intervalMinutes ← field "scan." fs "interval_minutes" d.intervalMinutes (within 0 (some 1440))
  return { inboxLimit, sentLimit, intervalMinutes }

/-- The settings of listings. -/
def mail (fs : Fields) : Checked MailSettings := do
  let d : MailSettings := {}
  let previewLength ← field "mail." fs "preview_length" d.previewLength (within 0 (some 10000))
  let defaultListLimit ← field "mail." fs "default_list_limit" d.defaultListLimit (within 1 (some 500))
  return { previewLength, defaultListLimit }

/-- The settings of the server. -/
def server (fs : Fields) : Checked ServerSettings := do
  let d : ServerSettings := {}
  let apiKey ← field "server." fs "api_key" d.apiKey optionalText
  let host ← field "server." fs "host" d.host text
  let port ← field "server." fs "port" d.port (within 1 (some 65535))
  let logLevel ← field "server." fs "log_level" d.logLevel logLevel
  return { apiKey, host, port, logLevel }

/-- All settings. -/
def settings (fs : Fields) : Checked Settings := do
  let d : Settings := {}
  let schemaVersion ← field "" fs "schema_version" d.schemaVersion (within 1 none)
  let directory ← sectionOf fs "directory" "DirectoryConfig" d.directory directory
  let imap ← sectionOf fs "imap" "ImapConfig" d.imap imap
  let classifier ← sectionOf fs "classifier" "ClassifierConfig" d.classifier classifier
  let scan ← sectionOf fs "scan" "ScanConfig" d.scan scan
  let mail ← sectionOf fs "mail" "MailConfig" d.mail mail
  let server ← sectionOf fs "server" "ServerConfig" d.server server
  return { schemaVersion, directory, imap, classifier, scan, mail, server }

/-- The settings that fields state. -/
def validate (source : String) (fs : Fields) : Except ValidationError Settings :=
  match (settings fs).toExcept with
  | .error violations => .error (.fields source violations)
  | .ok s => if currentVersion < s.schemaVersion then .error (.newerSchema s.schemaVersion) else .ok s

end Mailroom.Config
