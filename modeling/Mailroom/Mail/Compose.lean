import Mailroom.Directory.Record
import Mailroom.Failure
import Mailroom.Mail.Letter
import Mailroom.Mime.MessageId
/-!
  Mailroom.Mail.Compose
  ────────────────────────────────
  **FROM A REQUEST TO A LETTER.**

  A letter needs a recipient and a body, and none of its headers may have more
  than one line.  The headers are checked in the order in which they stand in
  the letter.
-/
namespace Mailroom.Mail

open Mailroom.Mime Mailroom.Text

/-- A header whose text is shown as `form` says. -/
def heading (form : Glyphs → Except HeaderFault Glyphs) (written : String) :
    Except Failure Heading :=
  if hasSeveralLines written then .error (.compose .lineBreak)
  else
    match form (glyphs written) with
    | .ok gs => .ok { written, shown := shown gs }
    | .error f => .error (.header f)

/-- A value that has to be a text for the operation `member`. -/
def textOr (member : String) (v : Json) : Except Failure String :=
  match v.textFor member with
  | .ok s => .ok s
  | .error e => .error (.misuse e)

/-- What is behind the last at sign of a text. -/
def behindAt (s : String) : String :=
  String.ofList (s.toList.reverse.takeWhile (· != '@')).reverse

/-- The domain that identifiers of letters from an address carry. -/
def idDomain (email : String) : String :=
  let domain := behindAt email
  if domain == "" then "localhost" else domain

/-- Several addresses in one header. -/
def addressLine (addresses : List String) : String := ", ".intercalate addresses

/-- Composes the letter for a request. -/
def compose (m : Directory.Mailbox) (r : Request) (stamp : Stamp) : Except Failure Letter := do
  if r.addressees.isEmpty then throw (.compose .noRecipient)
  match contentOf? r.text r.html with
  | none => throw (.compose .noBody)
  | some content =>
    let sender ← heading addressList (← textOr "splitlines" m.sender)
    let addressees ← heading addressList (addressLine r.addressees)
    let cc ← if r.cc.isEmpty then pure none else some <$> heading addressList (addressLine r.cc)
    let subject ← heading (fun gs => .ok (unstructured gs)) r.subject
    let email ← textOr "rpartition" m.email
    let messageId ← heading messageId ("<" ++ stamp.token ++ "@" ++ idDomain email ++ ">")
    return { sender, addressees, cc, subject, date := stamp.date, messageId, content }

end Mailroom.Mail
