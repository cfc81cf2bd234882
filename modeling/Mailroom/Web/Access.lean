import Mailroom.Text.Case
import Mailroom.Web.Query
/-!
  Mailroom.Web.Access
  ────────────────────────────────
  **WHO MAY USE THE SERVER.**

  A caller shows a key as a bearer token or in the query; the token counts first.
  Where no key is expected, everybody may.  Keys are compared only if they are
  ASCII.
-/
namespace Mailroom.Web

open Mailroom.Text

/-! ## §1. Requests. -/

/-- A request to the server; the octets of header values are characters. -/
structure Request where
  method : String := "GET"
  path : String
  query : String := ""
  headers : List (String × String) := []
  deriving Repr, DecidableEq

/-- The first value of a header, whatever the case of its name. -/
def Request.header? (r : Request) (name : String) : Option String :=
  (r.headers.find? fun h => lower h.1 == name).map (·.2)

/-! ## §2. Keys. -/

/-- What a header with a token starts with. -/
def tokenMark : String := "bearer "

/-- The token of a header; a blank one is none. -/
def tokenOf? (header : String) : Option String :=
  let cs := header.toList
  if lowerChars (cs.take tokenMark.length) == tokenMark.toList then
    some (trim (String.ofList (cs.drop tokenMark.length))) |>.filter (· != "")
  else none

/-- The key that a caller shows. -/
def Request.key? (r : Request) : Option String :=
  match (r.header? "authorization").bind tokenOf? with
  | some token => some token
  | none => lastValue? r.query "api_key"

/-! ## §3. The check. -/

/-- What the check of a key says. -/
inductive Verdict where
  | allowed
  | rejected
  deriving Repr, DecidableEq

/-- A key that cannot be compared. -/
inductive KeyFault where
  | notAscii
  deriving Repr, DecidableEq

/-- The message for a key that cannot be compared. -/
def KeyFault.message : KeyFault → String
  | notAscii => "comparing strings with non-ASCII characters is not supported"

/-- Whether a text is ASCII. -/
def isAsciiText (s : String) : Bool := s.toList.all isAscii

/-- Compares the key that a caller shows with the expected one. -/
def compareKeys (shown expected : String) : Except KeyFault Verdict :=
  if isAsciiText shown && isAsciiText expected then
    .ok (if shown == expected then .allowed else .rejected)
  else .error .notAscii

/-- Checks the key of a request. -/
def check (r : Request) (expected : Option String) : Except KeyFault Verdict :=
  match expected.filter (· != "") with
  | none => .ok .allowed
  | some key =>
    match r.key? with
    | none => .ok .rejected
    | some shown => compareKeys shown key

end Mailroom.Web
