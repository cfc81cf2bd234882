/-!
  Mailroom.Directory.Error
  ────────────────────────────────
  **HOW THE DIRECTORY CAN FAIL TO ANSWER.**
-/
namespace Mailroom.Directory

/-- Why the directory gave no answer. -/
inductive Error where
  /-- The key was rejected. -/
  | rejectedKey (code : Int) (reason : String)
  /-- There is nothing at the endpoint. -/
  | nothingAt (endpoint : String)
  /-- Any other status of 400 or above. -/
  | refused (code : Int) (reason : String)
  /-- The body is not JSON. -/
  | unreadable (endpoint : String) (code : Int)
  /-- No response came. -/
  | unreachable (base : String) (reason : String)
  /-- No request was allowed. -/
  | noAttempt (endpoint : String) (retries : Int)
  /-- No mailbox has the address. -/
  | unknownAddress (email : String)
  /-- No mailbox to be scanned has the address. -/
  | nothingToScan (email : String)
  deriving Repr, DecidableEq

namespace Error

/-- The message for a directory error. -/
def message : Error → String
  | rejectedKey code reason =>
    s!"Mailpool API rejected the API key ({code} {reason}). Check MAILPOOL_API_KEY."
  | nothingAt endpoint => s!"Mailpool API resource not found: {endpoint}"
  | refused code reason => s!"Mailpool API error: {code} {reason}"
  | unreadable endpoint _ => s!"Mailpool API returned invalid JSON for {endpoint}"
  | unreachable base reason => s!"Could not reach Mailpool API at {base}: {reason}"
  | noAttempt endpoint retries => s!"Request to {endpoint} failed after {retries} retries"
  | unknownAddress email =>
    s!"Mailbox not found for email: {email}. "
      ++ "Use list_email_accounts to see the available addresses."
  | nothingToScan email => s!"Mailbox not found for email: {email}"

/-- The status that goes with an error: none without a response, 404 for a look-up
that found nothing. -/
def status? : Error → Option Int
  | rejectedKey code _ => some code
  | nothingAt _ => some 404
  | refused code _ => some code
  | unreadable _ code => some code
  | unreachable _ _ => none
  | noAttempt _ _ => none
  | unknownAddress _ => some 404
  | nothingToScan _ => some 404

end Error

end Mailroom.Directory
