import Mailroom.Reply.Category
/-!
  Mailroom.Scan.Report
  ────────────────────────────────
  **WHAT A SCAN FOUND.**

  For each account a scan records the outcome of every reply that it classified
  to the end, in order; the counts per category follow from that list.
-/
namespace Mailroom.Scan

open Mailroom.Reply

/-! ## §1. Accounts. -/

/-- The result of scanning one account: the categories of the replies classified
to the end, how many replies had a sent message and how many had none, and why
the scan of the account ended early, if it did. -/
structure AccountResult where
  account : Json
  outcomes : List Category := []
  matched : Nat := 0
  unmatched : Nat := 0
  error : Option String := none
  deriving Repr

namespace AccountResult

/-- The number of replies of a category. -/
def count (r : AccountResult) (c : Category) : Nat := r.outcomes.count c

/-- The number of replies classified. -/
def total (r : AccountResult) : Nat := r.outcomes.length

/-- One more reply of a category. -/
def record (r : AccountResult) (c : Category) : AccountResult :=
  { r with outcomes := r.outcomes ++ [c] }

/-- The result as a record: the total and the count of each category. -/
def toJson (r : AccountResult) : Json := .object
  ([("account", r.account), ("total", .int r.total)]
    ++ Category.all.map (fun c => (c.name, .int (r.count c)))
    ++ (match r.error with | some e => [("error", .text e)] | none => []))

end AccountResult

/-! ## §2. Scans. -/

/-- The report of a scan. -/
structure Report where
  scanId : String
  durationMs : Int := 0
  results : List AccountResult := []
  deriving Repr

/-- The accounts whose scan ended early. -/
def Report.failed (r : Report) : List Json :=
  (r.results.filter (·.error.isSome)).map (·.account)

/-- The report as a record. -/
def Report.toJson (r : Report) : Json := .object
  [("scanId", .text r.scanId), ("durationMs", .int r.durationMs),
   ("results", .list (r.results.map AccountResult.toJson))]

/-- The number of replies of a category over several accounts. -/
def countOver (results : List AccountResult) (c : Category) : Nat :=
  results.foldr (fun r n => r.count c + n) 0

/-- The number of replies over several accounts. -/
def totalOver (results : List AccountResult) : Nat :=
  results.foldr (fun r n => r.total + n) 0

/-- The counts per category over several accounts, and the total. -/
def summary (results : List AccountResult) : List (String × Nat) :=
  Category.all.map (fun c => (c.name, countOver results c)) ++ [("total", totalOver results)]

end Mailroom.Scan
