import Mailroom.Mail.Date
import Mailroom.Filter.Expr
/-!
  Mailroom.Mail.Message
  ────────────────────────────────
  **MESSAGES AS A LISTING SHOWS THEM.**

  A message is a snapshot: its UID and flags in a folder, the headers that
  listings and the thread matcher read, and the first characters of its body.
-/
namespace Mailroom.Mail

/-- The flag of messages that have been classified. -/
def classifiedFlag : String := "classified"

/-- What stands for an empty subject. -/
def noSubject : String := "(no subject)"

/-- A snapshot of a message in a folder. -/
structure Message where
  uid : Int
  flags : List String := []
  subject : String := noSubject
  sender : String := ""
  addressees : String := ""
  date : Option Date := none
  preview : String := ""
  deriving Repr, DecidableEq

/-- A set of texts as the list of its members in ascending order. -/
def sortedSet (items : List String) : List String :=
  (items.eraseDups).mergeSort fun a b => !(b < a)

/-- The messages whose flags satisfy a filter, in their order. -/
def selected (filter : Filter.Expr) (messages : List Message) : List Message :=
  messages.filter fun m => filter.holds m.flags

end Mailroom.Mail
