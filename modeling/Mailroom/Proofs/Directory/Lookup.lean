import Mailroom.Proofs.Scan.Account
/-!
  Mailroom.Proofs.Directory.Lookup
  ────────────────────────────────
  **WHICH MAILBOX AN ADDRESS LEADS TO.**

  An address is looked for in the listing of the directory, and the first entry that has
  it names the record that is asked for next.  `Addressed` says of a mailbox that a run
  was told so.  Nothing outside is changed on the way.

      keeps_mailboxAt — a mailbox that is found is the addressed one
-/
namespace Mailroom.Directory

open Mailroom.Scan Mailroom.Text

/-! ## §1. What the directory said. -/

/-- The directory described the mailbox with an address: its listing has an entry with the
address, the first such, and the record of that number describes the mailbox. -/
def Addressed (c : Client) (tr : List Event) (email : String) (m : Mailbox) : Prop :=
  ∃ listing entries entry record, Supplied tr (c.urlOf "mailboxes") listing ∧
    entriesOf listing = .ok entries ∧
    findAddress? (lower (trim email)) entries = .ok (some entry) ∧
    Supplied tr (c.urlOf s!"mailboxes/{entry.id}") record ∧ Mailbox.ofJson record = .ok m

theorem Addressed.mono {c : Client} {tr tr' : List Event} {email : String} {m : Mailbox}
    (h : Addressed c tr email m) (hle : tr <+: tr') : Addressed c tr' email m := by
  obtain ⟨listing, entries, entry, record, hlisting, hentries, hentry, hrecord, hm⟩ := h
  exact ⟨listing, entries, entry, record, hlisting.mono hle, hentries, hentry, hrecord.mono hle, hm⟩

/-! ## §2. Asking for it. -/

section

variable {σ : Type} {law : Law σ} {I : List Event → σ → Prop} {tr : List Event} {s : σ}

/-- A world that requests to the directory leave as it is. -/
def Still (law : Law σ) : Prop :=
  ∀ url q r s s', Requests url q → law s q r s' → s' = s

/-- A request that succeeds brings what the directory supplied. -/
theorem keeps_request (c : Client) (endpoint : String) (params : Json) (hlaw : Still law)
    (hI : ∀ tr', tr <+: tr' → I tr' s) :
    (c.request endpoint params).run.Keeps law I (fun x tr' s' => (tr <+: tr' ∧ s' = s) ∧
      ∀ body, x = .ok body → Supplied tr' (c.urlOf endpoint) body) tr s := by
  unfold Client.request
  have hstart : tr <+: tr ∧ s = s := ⟨List.prefix_rfl, rfl⟩
  cases hleft : (c.maxRetries + 1).toNat with
  | zero => exact ⟨hI tr hstart.1, hstart, of_error_eq_ok⟩
  | succ left =>
    have hmono : ∀ tr' s', tr <+: tr' ∧ s' = s → I tr' s' := fun tr' s' h => h.2 ▸ hI tr' h.1
    have hask : ∀ q r tr₁ s₁ s₂, Requests (c.urlOf endpoint) q → tr <+: tr₁ ∧ s₁ = s →
        law s₁ q r s₂ → tr <+: tr₁ ++ [⟨q, r⟩] ∧ s₂ = s :=
      fun q r tr₁ s₁ s₂ hq h hr =>
        ⟨h.1.trans (List.prefix_append _ _), (hlaw _ _ _ _ _ hq hr).trans h.2⟩
    refine (keeps_attempts c endpoint params hmono hask (Nat.succ_pos left) hstart).mono ?_
    intro x tr' s' _ hx
    refine ⟨hx.1, fun body hbody => ?_⟩
    subst hbody
    exact hx.2

theorem keeps_ofMisuse {α : Type} {x : Except Json.Misuse α} (h : I tr s) :
    (Program.ofMisuse x).run.Keeps law I (fun y tr' s' => (tr' = tr ∧ s' = s) ∧
      ∀ a, y = .ok a → x = .ok a) tr s := by
  cases x with
  | error e => exact ⟨h, ⟨rfl, rfl⟩, of_error_eq_ok⟩
  | ok a =>
    refine ⟨h, ⟨rfl, rfl⟩, fun b hb => ?_⟩
    cases hb
    rfl

theorem keeps_list (c : Client) (hlaw : Still law) (hI : ∀ tr', tr <+: tr' → I tr' s) :
    c.list.run.Keeps law I (fun x tr' s' => (tr <+: tr' ∧ s' = s) ∧ ∀ entries, x = .ok entries →
      ∃ listing, Supplied tr' (c.urlOf "mailboxes") listing ∧ entriesOf listing = .ok entries)
      tr s := by
  unfold Client.list
  refine keeps_program_bind (keeps_request c _ _ hlaw hI) ?_ fun f tr s _ h => ⟨h.1, of_error_eq_ok⟩
  intro listing tr₁ s₁ hI₁ h
  obtain ⟨hstill, hsupplied⟩ := h
  refine (keeps_ofMisuse hI₁).mono fun x tr₂ s₂ _ hx => ?_
  obtain ⟨⟨rfl, rfl⟩, hx⟩ := hx
  exact ⟨hstill, fun entries he => ⟨listing, hsupplied listing rfl, hx entries he⟩⟩

theorem keeps_mailbox_supplied (c : Client) (id : Int) (hlaw : Still law)
    (hI : ∀ tr', tr <+: tr' → I tr' s) :
    (c.mailbox id).run.Keeps law I (fun x tr' s' => (tr <+: tr' ∧ s' = s) ∧ ∀ m, x = .ok m →
      ∃ record, Supplied tr' (c.urlOf s!"mailboxes/{id}") record ∧ Mailbox.ofJson record = .ok m)
      tr s := by
  unfold Client.mailbox
  refine keeps_program_bind (keeps_request c _ _ hlaw hI) ?_ fun f tr s _ h => ⟨h.1, of_error_eq_ok⟩
  intro record tr₁ s₁ hI₁ h
  obtain ⟨hstill, hsupplied⟩ := h
  refine (keeps_ofMisuse hI₁).mono fun x tr₂ s₂ _ hx => ?_
  obtain ⟨⟨rfl, rfl⟩, hx⟩ := hx
  exact ⟨hstill, fun m hm => ⟨record, hsupplied record rfl, hx m hm⟩⟩

/-- **A mailbox that is found is the addressed one.** -/
theorem keeps_mailboxAt (c : Client) (email : String) (hlaw : Still law)
    (hI : ∀ tr', tr <+: tr' → I tr' s) :
    (c.mailboxAt email).run.Keeps law I (fun x tr' s' => (tr <+: tr' ∧ s' = s) ∧
      ∀ m, x = .ok m → Addressed c tr' email m) tr s := by
  unfold Client.mailboxAt
  refine keeps_program_bind (keeps_list c hlaw hI) ?_ fun f tr s _ h => ⟨h.1, of_error_eq_ok⟩
  intro entries tr₁ s₁ hI₁ h
  obtain ⟨⟨hle₁, rfl⟩, hlisted⟩ := h
  obtain ⟨listing, hlisting, hentries⟩ := hlisted entries rfl
  refine keeps_program_bind (keeps_ofMisuse hI₁) ?_ fun f tr s _ h => ?_
  · intro found tr₂ s₂ hI₂ h
    obtain ⟨⟨rfl, rfl⟩, hfound⟩ := h
    have hfound := hfound found rfl
    cases found with
    | some entry =>
      refine (keeps_mailbox_supplied c entry.id hlaw fun tr' hle => hI tr' (hle₁.trans hle)).mono ?_
      intro x tr₃ s₃ _ hx
      obtain ⟨⟨hle₃, rfl⟩, hx⟩ := hx
      refine ⟨⟨hle₁.trans hle₃, rfl⟩, fun m hm => ?_⟩
      obtain ⟨record, hrecord, hm⟩ := hx m hm
      exact ⟨listing, entries, entry, record, hlisting.mono hle₃, hentries, hfound, hrecord, hm⟩
    | none => exact ⟨hI₂, ⟨hle₁, rfl⟩, of_error_eq_ok⟩
  · obtain ⟨⟨rfl, rfl⟩, -⟩ := h
    exact ⟨⟨hle₁, rfl⟩, of_error_eq_ok⟩

end

end Mailroom.Directory
