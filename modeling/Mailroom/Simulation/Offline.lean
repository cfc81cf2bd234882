import Mailroom.Simulation.Script
/-!
  Mailroom.Simulation.Offline
  ────────────────────────────────
  **A WORLD WITHOUT A NETWORK.**

  Nobody can be reached, and the clock stands still.
-/
namespace Mailroom.Simulation

/-- Why nobody can be reached. -/
def noNetwork : String := "Network is unreachable"

/-- The answer to a question where there is no network. -/
def offline (c : Command) (u : Unit) : c.Answer × Unit :=
  (match c with
    | .get _ => .unreachable noNetwork
    | .scanId => Script.someScanId
    | .clock => (0 : Nat)
    | .stamp => Script.someStamp
    | .draw => Script.half
    | .sleep _ => ()
    | .classify _ => .error noNetwork
    | .connect _ => .error (.connection noNetwork)
    | .imap _ => .error (.connection noNetwork)
    | .smtp _ => .error (.connection noNetwork), u)

end Mailroom.Simulation
