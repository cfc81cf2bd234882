import Mailroom.Cli.Grammar
import Mailroom.Config.Settings
import Mailroom.Filter.Expr
/-!
  Mailroom.Cli.Console
  ────────────────────────────────
  **WHAT A COMMAND SHOWS AND HOW IT ENDS.**
-/
namespace Mailroom.Cli

/-! ## §1. Output. -/

/-- A tree of labels. -/
inductive Tree where
  | node (label : String) (children : List Tree)
  deriving Repr

/-- Something printed. -/
inductive Printed where
  | line (text : String)
  | table (title : String) (columns : List String) (rows : List (List String))
  | tree (t : Tree)
  deriving Repr

/-- The tree of a filter. -/
def filterTree : Filter.Expr → Tree
  | .tag name => .node ("[green]" ++ name ++ "[/green]") []
  | .not e => .node "[bold]NOT[/bold]" [filterTree e]
  | .and l r => .node "[bold]AND[/bold]" [filterTree l, filterTree r]
  | .or l r => .node "[bold]OR[/bold]" [filterTree l, filterTree r]

/-! ## §2. Acts and endings. -/

/-- What a command does to the process that runs it. -/
inductive Act where
  /-- Sets up logging. -/
  | log (level : Config.LogLevel) (json : Bool)
  | print (p : Printed)
  /-- Starts the server. -/
  | serve (host : String) (port : Int) (level : Config.LogLevel)
  /-- Waits for an agent on the standard streams. -/
  | agents (name : String)
  deriving Repr

end Mailroom.Cli
