import Mailroom.Config.Settings
import Mailroom.Json.Basic
import Mailroom.Text.Case
/-!
  Mailroom.Log.Entry
  ────────────────────────────────
  **LOG ENTRIES.**

  An entry has an event, a logger, a level and further fields; during a scan it
  carries the name of the scan.  Entries below the configured level are left out.
-/
namespace Mailroom.Log

open Mailroom.Text

/-! ## §1. Severities. -/

/-- How severe an entry is. -/
inductive Severity where
  | debug | info | warning | error | critical
  deriving Repr, DecidableEq

namespace Severity

/-- The name of a severity in an entry. -/
def name : Severity → String
  | debug => "debug"
  | info => "info"
  | warning => "warning"
  | error => "error"
  | critical => "critical"

/-- The rank of a severity. -/
def rank : Severity → Nat
  | debug => 10
  | info => 20
  | warning => 30
  | error => 40
  | critical => 50

/-- The severity that the name of an event's level means. -/
def ofName? (s : String) : Option Severity :=
  [("debug", debug), ("info", info), ("warning", warning), ("warn", warning), ("error", error),
    ("exception", error), ("critical", critical), ("fatal", critical)].lookup s

end Severity

/-- The names of levels, with the least rank of the entries that each lets
through. -/
def levels : List (String × Nat) :=
  [("NOTSET", 0), ("DEBUG", 10), ("INFO", 20), ("WARNING", 30), ("WARN", 30), ("ERROR", 40),
    ("CRITICAL", 50), ("FATAL", 50)]

/-- The least rank of the entries that a level lets through; the letter case of
its name does not matter. -/
def rankOf? (level : String) : Option Nat :=
  (levels.find? fun l => isWord l.1 level).map (·.2)

/-! ## §2. Entries. -/

/-- What is logged, where and when. -/
structure Event where
  logger : String
  severity : Severity
  event : String
  fields : List (String × Json) := []
  scanId : Option String := none
  deriving Repr

/-- The fields of an entry: its own fields give way to those that every entry
has. -/
def Event.entry (e : Event) : Json :=
  Json.ofFields (e.fields
    ++ [("event", .text e.event), ("level", .text e.severity.name), ("logger", .text e.logger)]
    ++ (match e.scanId with | some id => [("scan_id", .text id)] | none => []))

/-- The entries of events from a rank on. -/
def entries (least : Nat) (events : List Event) : List Json :=
  (events.filter fun e => least ≤ e.severity.rank).map Event.entry

end Mailroom.Log
