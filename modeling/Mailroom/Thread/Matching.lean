import Mailroom.Thread.Subject
import Mailroom.Thread.Address
import Mailroom.Mail.Message
/-!
  Mailroom.Thread.Matching
  ────────────────────────────────
  **WHICH SENT MESSAGE A REPLY ANSWERS.**

  A reply answers a sent message when their normalized subjects are equal and
  the reply's bare address occurs in the sent message's To field.  Of several
  such messages the first counts; one sent message may have many replies.
-/
namespace Mailroom.Thread

open Mailroom.Mail Mailroom.Text

/-! ## §1. One reply. -/

/-- A reply paired with the sent message it answers. -/
structure Match where
  inbound : Int
  outbound : Int
  deriving Repr, DecidableEq

/-- Whether `reply` answers `sent`: equal normalized subjects, and the reply's
address, not empty, inside the To field. -/
def answers (reply sent : Message) : Bool :=
  let address := bareAddress reply.sender
  address != "" && normalize sent.subject == normalize reply.subject
    && contains (lower sent.addressees) address

/-- The first sent message that a reply answers. -/
def answered? (outbound : List Message) (reply : Message) : Option Message :=
  outbound.find? (answers reply)

/-! ## §2. A whole inbox. -/

/-- The replies that answer a sent message and the UIDs of those that answer
none. -/
structure Matching where
  found : List Match
  unmatched : List Int
  deriving Repr, DecidableEq

/-- Pairs the inbound messages, in order, with the outbound ones they answer. -/
def matching (inbound outbound : List Message) : Matching where
  found := inbound.filterMap fun m => (answered? outbound m).map fun s => ⟨m.uid, s.uid⟩
  unmatched := (inbound.filter fun m => (answered? outbound m).isNone).map (·.uid)

end Mailroom.Thread
