import Mailroom.Cli.Run
import Mailroom.Simulation.Offline
/-!
  Mailroom.Main
  ────────────────────────────────
  **THE PROGRAM.**

  Reads the configuration and the environment, carries the command line out, and
  prints what it shows.  Without a network every mailbox is out of reach.
-/
namespace Mailroom.Main

open Mailroom.Cli Mailroom.Config

/-- The variables of the environment that matter. -/
def variableNames : List String := pathVariable :: overrides.map (·.1)

/-- The environment. -/
def environment : IO Environment := do
  let values ← variableNames.mapM fun name => do
    return (← IO.getEnv name).map fun value => (name, value)
  return values.filterMap id

/-- The path at which a command line looks for the configuration. -/
def configPath (env : Environment) (line : List String) : String :=
  match readLine line with
  | .ok (.command global _ _) => (askedPath? global.config env).getD usualPath
  | _ => usualPath

/-- What is at a path. -/
def foundAt (path : String) : IO Found := do
  try return .file (← IO.FS.readFile path)
  catch _ => return .nothing

/-- The lines of a tree. -/
def treeLines (indent : String) : Tree → List String
  | .node label children =>
    (indent ++ label) :: (children.attach.map fun ⟨t, _⟩ => treeLines (indent ++ "  ") t).flatten

/-- The lines for something printed. -/
def linesOf : Printed → List String
  | .line text => [text]
  | .table title columns rows => title :: (columns :: rows).map "\t".intercalate
  | .tree t => treeLines "" t

/-- The lines for an act. -/
def shownLines : Act → List String
  | .print p => linesOf p
  | _ => []

/-- The exit code for an ending, and what is said about it. -/
def closing : Ending → UInt32 × List String
  | .exit code => (code.toUInt32, [])
  | .usage (some e) => (2, ["Error: " ++ e.message])
  | .usage none => (2, [])
  | .crash (.config f) => (1, [f.message])
  | .crash (.failure f) => (1, [f.message])

end Mailroom.Main

open Mailroom Mailroom.Main in
/-- Carries out the command line. -/
def main (line : List String) : IO UInt32 := do
  let env ← environment
  let path := configPath env line
  let found ← foundAt path
  let find (p : String) : Config.Found := if p == path then found else .nothing
  let (outcome, _) := (Cli.run find env line).run Simulation.offline ()
  for text in outcome.acts.flatMap shownLines do
    IO.println text
  let (code, texts) := closing outcome.ending
  for text in texts do
    IO.eprintln text
  return code
