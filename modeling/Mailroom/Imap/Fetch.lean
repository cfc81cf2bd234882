import Mailroom.Imap.Wire
import Mailroom.Text.DecimalDigit
/-!
  Mailroom.Imap.Fetch
  ────────────────────────────────
  **MESSAGES IN A FETCH RESPONSE.**

  A message comes as a group of a line and the literal octets of the message;
  the lines that follow belong to it, since some servers state FLAGS behind the
  literal.  The first UID and the first FLAGS among its lines count, and a
  message without UID is passed over.
-/
namespace Mailroom.Imap

open Mailroom.Text

/-! ## §1. Items of a line. -/

/-- The first place in `bs` at a word start where `read` succeeds; `inWord`
says whether a byte of a word precedes `bs`. -/
def firstAtWord? {α : Type} (read : Octets → Option α) (inWord : Bool) : Octets → Option α
  | [] => none
  | b :: bs =>
    match if inWord then none else read (b :: bs) with
    | some a => some a
    | none => firstAtWord? read (isWordByte b) bs

/-- Reads `UID` and a number, and returns its digits. -/
def uidItem? (bs : Octets) : Option Octets :=
  match dropPrefix? (octets "UID ") bs with
  | some rest =>
    let digits := rest.takeWhile isByteDigit
    if digits.isEmpty then none else some digits
  | none => none

/-- Reads `FLAGS` and a list in parentheses, and returns what is in it. -/
def flagsItem? (bs : Octets) : Option Octets :=
  match dropPrefix? (octets "FLAGS (") bs with
  | some rest => if rest.contains 41 then some (rest.takeWhile (· ≠ 41)) else none
  | none => none

/-- The digits of the first UID in the lines of a message. -/
def uidDigits? (header : Octets) : Option Octets := firstAtWord? uidItem? false header

/-- The flags in the lines of a message. -/
def flagsOf (header : Octets) : List String :=
  match firstAtWord? flagsItem? false header with
  | some list => (byteWords list).map decode
  | none => []

/-! ## §2. Responses. -/

/-- A message of a FETCH response. -/
structure Fetched where
  uid : Int
  flags : List String
  raw : Octets
  deriving Repr, DecidableEq

/-- The lines and the literal of each message, in order: a group starts a
message, a line is added to the one before it. -/
def groups (open? : Option (Octets × Octets)) :
    List Item → Except WireFault (List (Octets × Octets))
  | [] => .ok open?.toList
  | .absent :: items => groups open? items
  | .line bs :: items =>
    groups (open?.map fun (header, raw) => (header ++ 32 :: bs, raw)) items
  | .group (header :: raw :: _) :: items => do
    return open?.toList ++ (← groups (some (header, raw)) items)
  | .group _ :: _ => .error .shortGroup

/-- One message from its lines and its literal; nothing without UID. -/
def fetched? (header raw : Octets) : Except WireFault (Option Fetched) :=
  match uidDigits? header with
  | none => .ok none
  | some digits => (number digits).map fun uid => some ⟨uid, flagsOf header, raw⟩

/-- The messages of a FETCH response. -/
def readFetch (items : List Item) : Except WireFault (List Fetched) := do
  let messages ← (← groups none items).mapM fun (header, raw) => fetched? header raw
  return messages.filterMap id

end Mailroom.Imap
