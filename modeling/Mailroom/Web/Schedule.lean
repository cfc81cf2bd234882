import Mailroom.Service
/-!
  Mailroom.Web.Schedule
  ────────────────────────────────
  **SCANS AT REGULAR INTERVALS.**

  While the server runs, the mailboxes are scanned every so many minutes, if the
  settings say so and both keys are set.
-/
namespace Mailroom.Web

open Mailroom.Config

/-- A job that is done at regular intervals, at most so many times at once; turns
that were missed are made up for once. -/
structure Job where
  name : String := "classification_scan"
  minutes : Int
  atOnce : Nat := 1
  coalesce : Bool := true
  deriving Repr, DecidableEq

/-- The job that settings ask for. -/
def jobOf? (s : Settings) : Option Job :=
  if 0 < s.scan.intervalMinutes && (s.key? .classifier).isSome && (s.key? .directory).isSome then
    some { minutes := s.scan.intervalMinutes }
  else none

/-- Does the job once; a failure that is reported does not end the schedule. -/
def doJob (s : Settings) : Program Unit := do
  let program : Program Scan.Report := do
    (← Program.ofExcept (Service.ofSettings s)).classify none
  match ← Program.attempt program with
  | .ok _ => return ()
  | .error f => if f.isReported then return () else throw f

end Mailroom.Web
