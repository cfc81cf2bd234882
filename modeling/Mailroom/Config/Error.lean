/-!
  Mailroom.Config.Error
  ────────────────────────────────
  **HOW A CONFIGURATION CAN BE WRONG.**

  A file cannot be loaded, its content does not follow the schema, or a key that
  an operation needs is not set.
-/
namespace Mailroom.Config

/-! ## §1. Loading. -/

/-- Why a configuration file cannot be loaded. -/
inductive LoadError where
  | missingFile (path : String)
  | unreadable (path : String)
  /-- The document is not a mapping but a value of the named type. -/
  | notMapping (type : String)
  deriving Repr, DecidableEq

/-- The message for a load error. -/
def LoadError.message : LoadError → String
  | missingFile path => s!"Configuration file not found: {path}\n"
      ++ s!"Create it by copying config/config.yaml.example to {path}"
  | unreadable path => s!"Failed to parse YAML in {path}:"
  | notMapping type => s!"Configuration file must be a YAML mapping, got {type}"

/-! ## §2. Validation. -/

/-- What is wrong with the value of a field. -/
inductive Violation where
  | notText
  /-- Octets that are not a text. -/
  | notUnicode
  | notInteger
  /-- A decimal with a fraction where an integer is needed. -/
  | fractional
  | notNumber
  | notNumeral
  | notFinite
  | below (least : Int)
  | above (greatest : Int)
  | notPositive
  | tooManyDigits
  | badBase
  | badLogLevel
  | notSection (name : String)
  deriving Repr, DecidableEq

/-- The message line for a field that violates the schema. -/
def Violation.line (path : String) : Violation → String
  | notText => s!"  - Field '{path}' must be a string"
  | notUnicode =>
    s!"  - Field '{path}': Input should be a valid string, unable to parse raw data as a "
      ++ "unicode string"
  | notInteger => s!"  - Field '{path}' must be an integer"
  | fractional =>
    s!"  - Field '{path}': Input should be a valid integer, got a number with a fractional part"
  | notNumber => s!"  - Field '{path}': Input should be a valid number"
  | notNumeral =>
    s!"  - Field '{path}': Input should be a valid number, unable to parse string as a number"
  | notFinite => s!"  - Field '{path}': Input should be a finite number"
  | below least => s!"  - Field '{path}': Input should be greater than or equal to {least}"
  | above greatest => s!"  - Field '{path}': Input should be less than or equal to {greatest}"
  | notPositive => s!"  - Field '{path}': Input should be greater than 0"
  | tooManyDigits =>
    s!"  - Field '{path}': Unable to parse input string as an integer, exceeded maximum size"
  | badBase => s!"  - Field '{path}': Value error, api_base must start with http:// or https://"
  | badLogLevel =>
    s!"  - Field '{path}': Input should be 'DEBUG', 'INFO', 'WARNING' or 'ERROR'"
  | notSection name =>
    s!"  - Field '{path}': Input should be a valid dictionary or instance of {name}"

/-- Why a configuration is not valid. -/
inductive ValidationError where
  /-- Fields that violate the schema, in the order of the schema. -/
  | fields (source : String) (violations : List (String × Violation))
  /-- A schema version that is not known yet. -/
  | newerSchema (version : Int)
  deriving Repr, DecidableEq

/-- The newest schema version. -/
def currentVersion : Int := 1

/-- The message for a validation error. -/
def ValidationError.message : ValidationError → String
  | fields source violations =>
    s!"Configuration validation failed for {source}:\n"
      ++ "\n".intercalate (violations.map fun (path, v) => v.line path)
  | newerSchema version =>
    s!"Config schema version {version} is newer than supported version {currentVersion}. "
      ++ "Please upgrade mailpool-mcp or downgrade the config."

/-! ## §3. Keys. -/

/-- A key that an operation needs. -/
inductive Key where
  | directory | classifier
  deriving Repr, DecidableEq

/-- The message for a key that is not set. -/
def Key.missing : Key → String
  | directory => "MAILPOOL_API_KEY is not set. Export it or set directory.api_key in config.yaml."
  | classifier => "ANTHROPIC_API_KEY is not set. Set it to enable auto-classification, "
      ++ "or classify replies manually with the tag_email tool."

end Mailroom.Config
