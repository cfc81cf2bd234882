import Mailroom.Imap.Wire
import Mailroom.Json.Basic
/-!
  Mailroom.Imap.Command
  ────────────────────────────────
  **WHAT IS SAID ON AN IMAP CONNECTION.**

  A connection is opened to a host and a port and then carries one command after
  the other.  Each is answered by a status with data, or ends in a fault.
-/
namespace Mailroom.Imap

open Mailroom.Number

/-! ## §1. Commands. -/

/-- Where a server is reached. -/
structure Endpoint where
  secure : Bool
  host : Json
  port : Int
  timeout : Binary64
  deriving Repr

/-- What messages a search looks for. -/
inductive Criterion where
  | all
  | keyword (flag : String)
  | unkeyword (flag : String)
  /-- The messages with a system flag, named by its search key. -/
  | system (key : String)
  deriving Repr, DecidableEq

/-- The words of a criterion. -/
def Criterion.words : Criterion → List String
  | all => ["ALL"]
  | keyword flag => ["KEYWORD", flag]
  | unkeyword flag => ["UNKEYWORD", flag]
  | system key => [key]

/-- Whether a flag is to be set or taken away. -/
inductive Change where
  | add | remove
  deriving Repr, DecidableEq

/-- The word for a change of flags. -/
def Change.word : Change → String
  | add => "+FLAGS"
  | remove => "-FLAGS"

/-- A command on an open connection; folder names are quoted. -/
inductive Command where
  | startTls
  | login (user password : Json)
  | logout
  | select (mailbox : String) (readonly : Bool)
  | list
  | append (mailbox flags : String) (raw : Octets)
  | search (criterion : Criterion)
  | fetch (uids : List Int)
  | store (uid : Int) (change : Change) (flag : String)
  deriving Repr

/-- What is fetched of each message. -/
def fetchItems : String := "(UID FLAGS BODY.PEEK[])"

/-- A set of UIDs as it stands in a command. -/
def uidSet (uids : List Int) : String := ",".intercalate (uids.map toString)

/-! ## §2. Answers. -/

/-- How a command can fail. -/
inductive Fault where
  /-- The connection broke, or the server reported an error. -/
  | connection (reason : String)
  /-- Something else went wrong that no operation expects. -/
  | foreign (reason : String)
  deriving Repr, DecidableEq

/-- The answer to a command. -/
structure Response where
  status : String
  items : List Item
  deriving Repr, DecidableEq

/-- The status of an answer to a command that was carried out. -/
def okStatus : String := "OK"

end Mailroom.Imap
