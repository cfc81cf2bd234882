import Mailroom.Mail.Message
import Mailroom.Mime.Address
import Mailroom.Mime.DateField
import Mailroom.Mime.Body
/-!
  Mailroom.Mail.Snapshot
  ────────────────────────────────
  **FROM THE OCTETS OF A MESSAGE TO ITS SNAPSHOT.**

  The subject is trimmed and replaced by `(no subject)` when nothing is left;
  addresses are shown in canonical form; a date that cannot be read is left out;
  the preview is the start of the text.
-/
namespace Mailroom.Mail

open Mailroom.Mime Mailroom.Text

/-- The first `n` elements of a list; all but the last `-n` if `n` is negative. -/
def takeSigned {α : Type} (n : Int) (xs : List α) : List α :=
  if n < 0 then xs.take (xs.length - n.natAbs) else xs.take n.toNat

/-- The subject of a message from the text of its header, if it has one. -/
def subjectOf (header : Option Glyphs) : String :=
  let s := trim (shown (unstructured (header.getD [])))
  if s == "" then noSubject else s

/-- An address header as it is shown. -/
def addressesOf (header : Option Glyphs) : Except HeaderFault String :=
  match header with
  | none => .ok ""
  | some v => (addressList v).map shown

/-- The date of a message. -/
def dateOf (header : Option Glyphs) : Except HeaderFault (Option Date) :=
  match header with
  | none => .ok none
  | some v => if v.isEmpty then .ok none else headerDate v

/-- The snapshot of a message. -/
def Message.ofOctets (uid : Int) (raw : List UInt8) (flags : List String) (previewLength : Int) :
    Except HeaderFault Message := do
  let e ← Entity.ofOctets raw
  let preview ← e.bodyText (2 * raw.length + 8)
  let header := fun name => e.head.glyphs? name
  let subject := subjectOf (header "subject")
  let sender ← addressesOf (header "from")
  let addressees ← addressesOf (header "to")
  let date ← dateOf (header "date")
  return { uid, flags, subject, sender, addressees, date
           preview := String.ofList (takeSigned previewLength preview.toList) }

end Mailroom.Mail
