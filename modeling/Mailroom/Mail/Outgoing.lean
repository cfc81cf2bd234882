/-!
  Mailroom.Mail.Outgoing
  ────────────────────────────────
  **MESSAGES TO BE SENT.**

  A request names its recipients and gives a body as text, as a page, or as
  both.  A letter is the message composed from it: blind copies are named to the
  server only and leave no trace in it.
-/
namespace Mailroom.Mail

/-! ## §1. Requests. -/

/-- A message to be composed and sent. -/
structure Request where
  addressees : List String
  subject : String
  text : Option String := none
  html : Option String := none
  cc : List String := []
  bcc : List String := []
  deriving Repr, DecidableEq

/-- Everybody who is to get the message, in the order of the request. -/
def Request.recipients (r : Request) : List String := r.addressees ++ r.cc ++ r.bcc

/-- Why a message cannot be composed. -/
inductive ComposeFault where
  | noRecipient
  | noBody
  /-- A line break in a header. -/
  | lineBreak
  deriving Repr, DecidableEq

/-- The message for a compose fault. -/
def ComposeFault.message : ComposeFault → String
  | noRecipient => "At least one 'to' recipient is required"
  | noBody => "Either text or html body is required"
  | lineBreak => "Header values may not contain linefeed or carriage return characters"

/-! ## §2. Letters. -/

/-- The content of a letter; every line of it ends in a line feed. -/
inductive Content where
  | text (plain : String)
  | page (html : String)
  | both (plain html : String)
  deriving Repr, DecidableEq

/-- A header as it is written and as it is shown. -/
structure Heading where
  written : String
  shown : String
  deriving Repr, DecidableEq

/-- A composed message: its headers and its content. -/
structure Letter where
  sender : Heading
  addressees : Heading
  cc : Option Heading
  subject : Heading
  date : String
  messageId : Heading
  content : Content
  deriving Repr, DecidableEq

/-- What a letter takes from outside: the date, and the part of its identifier
that no other letter has. -/
structure Stamp where
  date : String
  token : String
  deriving Repr, DecidableEq

/-- What became of a message: its identifier, who was accepted and who refused,
and its octets for the copy in the sent folder. -/
structure Delivery where
  messageId : String
  accepted : List String
  rejected : List String
  raw : List UInt8
  deriving Repr, DecidableEq

end Mailroom.Mail
