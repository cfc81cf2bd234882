import Mailroom.Tools
import Mailroom.Web.Access
/-!
  Mailroom.Web.Server
  ────────────────────────────────
  **THE SERVER.**

      /api/ping       — a sign of life for everybody
      /api/classify   — classifies the new replies, for who has the key
      /mcp…           — the agents' entrance, for who has the key

  The key for the agents' entrance is checked before anything else is decided
  about a request.  What is behind the entrance, and the pages about the server, are
  others' code and stand as parameters.
-/
namespace Mailroom.Web

open Mailroom.Config

/-! ## §1. Responses. -/

/-- A response; the body is missing where it is not JSON. -/
structure Response where
  status : Nat
  body : Option Json := none
  deriving Repr

/-- A response that says what is wrong. -/
def errorResponse (status : Nat) (message : String) : Response where
  status
  body := some (.object [("error", .text message)])

/-- A response of the router. -/
def detailResponse (status : Nat) (detail : String) : Response where
  status
  body := some (.object [("detail", .text detail)])

/-- The response to a caller without the key. -/
def forbidden : Response where
  status := 403
  body := some (.object [("error", .text "forbidden"),
    ("error_description", .text "Invalid or missing API key")])

/-- The response where the classifier has no key. -/
def notConfigured : Response where
  status := 501
  body := some (.object [("error", .text "ANTHROPIC_API_KEY is not set"),
    ("message", .text ("Set the ANTHROPIC_API_KEY environment variable to enable "
      ++ "auto-classification. Without it, classify replies manually with the tag_email tool."))])

/-- A request that ends in no response. -/
inductive Fault where
  | key (e : KeyFault)
  | other (f : Failure)
  deriving Repr

/-- The response to a request, or why there is none. -/
abbrev Handler : Type := ExceptT Fault Dialogue Response

/-- Others' code that the server is built with. -/
structure Library where
  /-- A page about the routes of the server. -/
  page : Request → Response := fun _ => { status := 200 }
  /-- What is behind the agents' entrance: it may do whatever the settings make possible. -/
  agents : Settings → Request → Handler := fun _ _ => return { status := 404 }

/-! ## §2. Classifying. -/

/-- The response for a failure that is reported to the caller. -/
def responseFor (f : Failure) : Option Response :=
  match f with
  | .missingKey _ => some (errorResponse 501 f.message)
  | .directory e => some (errorResponse (if e.status? == some 404 then 404 else 502) f.message)
  | f => if f.isReported then some (errorResponse 500 f.message) else none

/-- Classifies the new replies. -/
def classify (s : Settings) (r : Request) : Handler := do
  match s.key? .classifier with
  | none => return notConfigured
  | some _ =>
    let program : Program Scan.Report := do
      (← Program.ofExcept (Service.ofSettings s)).classify (lastValue? r.query "account")
    match ← ExceptT.lift program.run with
    | .ok report => return { status := 200, body := some report.toJson }
    | .error f =>
      match responseFor f with
      | some response => return response
      | none => throw (.other f)

/-! ## §3. Routes. -/

/-- Goes on only for a caller with the key. -/
def guarded (s : Settings) (r : Request) (next : Handler) : Handler :=
  match check r s.server.apiKey with
  | .error e => throw (.key e)
  | .ok .rejected => return forbidden
  | .ok .allowed => next

/-- What is at a path. -/
inductive Route where
  | ping
  | classify
  /-- A page about the server. -/
  | page
  /-- The agents' entrance and what is behind it. -/
  | agents
  deriving Repr, DecidableEq

/-- Where the agents' entrance is. -/
def agentsPath : String := "/mcp"

/-- The pages about the server. -/
def pages : List String := ["/openapi.json", "/docs", "/docs/oauth2-redirect", "/redoc"]

/-- The route for a path. -/
def routeAt? (path : String) : Option Route :=
  if path == "/api/ping" then some .ping
  else if path == "/api/classify" then some .classify
  else if pages.contains path then some .page
  else if (agentsPath ++ "/").toList.isPrefixOf path.toList then some .agents
  else none

/-- The same path with a slash more at its end, or without the slashes there. -/
def otherSpelling (path : String) : String :=
  if path.toList.getLast? == some '/' then
    String.ofList (Text.dropEndWhile (· == '/') path.toList)
  else path ++ "/"

/-- Whether a route takes a method. -/
def Route.takes (route : Route) (method : String) : Bool :=
  match route with
  | ping | classify => method == "GET"
  | page => method == "GET" || method == "HEAD"
  | agents => true

/-- Handles a request at a route. -/
def Route.handle (lib : Library) (s : Settings) (r : Request) : Route → Handler
  | ping => return { status := 200, body := some Tools.pong }
  | classify => guarded s r (Web.classify s r)
  | page => return lib.page r
  | agents => lib.agents s r

/-- Handles a request at the route for its path. -/
def dispatch (lib : Library) (s : Settings) (r : Request) : Handler :=
  match routeAt? r.path with
  | some route =>
    if route.takes r.method then route.handle lib s r
    else return detailResponse 405 "Method Not Allowed"
  | none =>
    if r.path != "/" && (routeAt? (otherSpelling r.path)).isSome then return { status := 307 }
    else return detailResponse 404 "Not Found"

/-- A response without its body where only the head is asked for. -/
def Response.headOnly (r : Request) (response : Response) : Response :=
  if r.method == "HEAD" then { response with body := none } else response

/-- Handles a request with others' code. -/
def Library.handle (lib : Library) (s : Settings) (r : Request) : Handler := do
  let response ←
    if agentsPath.toList.isPrefixOf r.path.toList then guarded s r (dispatch lib s r)
    else dispatch lib s r
  return response.headOnly r

/-- Handles a request where nothing is behind the agents' entrance. -/
def handle (s : Settings) (r : Request) : Handler := ({} : Library).handle s r

end Mailroom.Web
