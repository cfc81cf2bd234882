import Mailroom.Config.Error
import Mailroom.Dialogue.Basic
import Mailroom.Directory.Error
import Mailroom.Filter.Syntax
import Mailroom.Imap.Flag
import Mailroom.Json.Misuse
import Mailroom.Mail.TransportError
import Mailroom.Mime.Phrase
/-!
  Mailroom.Failure
  ────────────────────────────────
  **ALL WAYS IN WHICH AN OPERATION CAN FAIL.**

  `isReported` holds of the failures that every caller expects, `isRejected` of
  inputs that cannot be used; the other failures are faults of data that nobody
  checked.
-/
namespace Mailroom

/-! ## §1. Failures. -/

/-- Why an operation failed. -/
inductive Failure where
  | filter (e : Filter.SyntaxError)
  | directory (e : Directory.Error)
  | transport (e : Mail.TransportError)
  | classification (e : Reply.ClassificationError)
  | missingKey (key : Config.Key)
  /-- A flag that cannot be sent. -/
  | flag (flag : String)
  | compose (e : Mail.ComposeFault)
  | misuse (e : Json.Misuse)
  | wire (e : Imap.WireFault)
  | header (e : Mime.HeaderFault)
  /-- More pages than a binary64 number can count. -/
  | tooManyPages
  /-- A request to the directory that could not be made. -/
  | request (reason : String)
  /-- Something outside that no operation expects. -/
  | foreign (reason : String)
  deriving Repr

namespace Failure

/-- The message for a failure. -/
def message : Failure → String
  | filter e => e.message
  | directory e => e.message
  | transport e => e.message
  | classification e => e.message
  | missingKey key => key.missing
  | flag f => Imap.invalidFlagMessage f
  | compose e => e.message
  | misuse e => e.message
  | wire e => e.message
  | header e => e.message
  | tooManyPages => "integer division result too large for a float"
  | request reason => reason
  | foreign reason => reason

/-- A failure that every caller expects and reports. -/
def isReported : Failure → Bool
  | filter _ | directory _ | transport _ | classification _ | missingKey _ => true
  | _ => false

/-- An input that cannot be used. -/
def isRejected : Failure → Bool
  | flag _ | compose _ => true
  | misuse (.notInteger _) | misuse (.tooManyDigits _) | misuse .undefinedNumber => true
  | wire (.notNumber _) | wire (.tooManyDigits _) => true
  | header .lineBreak => true
  | _ => false

/-- A failure that ends the scan of one account and not of the others. -/
def endsAccount : Failure → Bool
  | directory _ | transport _ | classification _ => true
  | _ => false

end Failure

/-! ## §2. Programs. -/

/-- A dialogue that may fail. -/
abbrev Program (α : Type) : Type := ExceptT Failure Dialogue α

namespace Program

/-- Asks one question. -/
def ask (c : Command) : Program c.Answer := ExceptT.lift (Dialogue.put c)

/-- A program that only reads data. -/
def ofMisuse {α : Type} : Except Json.Misuse α → Program α
  | .ok a => pure a
  | .error e => throw (.misuse e)

/-- A program that only computes. -/
def ofExcept {α : Type} : Except Failure α → Program α
  | .ok a => pure a
  | .error e => throw e

/-- The outcome of a program as a value. -/
def attempt {α : Type} (p : Program α) : Program (Except Failure α) := ExceptT.lift p.run

end Program

end Mailroom
