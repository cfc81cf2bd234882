import Mailroom.Json.Basic
import Mailroom.Text.Case
/-!
  Mailroom.Directory.Request
  ────────────────────────────────
  **REQUESTS TO THE DIRECTORY AND WHAT COMES BACK.**
-/
namespace Mailroom.Directory

open Mailroom.Number Mailroom.Text

/-- A request for the record at a place; the key goes with every request. -/
structure Request where
  url : String
  key : String
  params : Json
  timeout : Binary64
  deriving Repr

/-- A response; the body is missing if it is not JSON. -/
structure Response where
  status : Int
  reason : String
  headers : List (String × String)
  body : Option Json
  deriving Repr

/-- The value of a header, whatever the case of its name. -/
def Response.header? (r : Response) (name : String) : Option String :=
  (r.headers.reverse.find? fun h => lower h.1 == lower name).map (·.2)

/-- What comes of a request. -/
inductive Outcome where
  | response (r : Response)
  /-- No response: the time ran out or the connection failed. -/
  | unreachable (reason : String)
  /-- A failure of the request that is not handled. -/
  | refused (reason : String)
  /-- Something else went wrong that no operation expects. -/
  | foreign (reason : String)
  deriving Repr

end Mailroom.Directory
