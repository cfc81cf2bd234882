import Mailroom.Imap.Connection
import Mailroom.Proofs.Directory.Reading
import Mailroom.Smtp.Exchange
/-!
  Mailroom.Proofs.Directory.Omission
  ────────────────────────────────
  **WHAT A FIELD SAYS THAT IS NULL.**

  A directory may leave a field out or write it as null.  Most fields are read alike in both
  cases; the address of a mailbox and its two TLS switches are not:

      nulled, without    — some fields of a record made null, or left out
      Nulls              — a field of the record is among those
      null_absent_iff    — which fields are read differently, and what follows for the
                           connections to the servers
      null_drops_tls     — a switch that is null is off, and one that is missing is on
-/
namespace Mailroom.Directory

/-! ## §1. Fields made null and fields left out. -/

/-- A record with some of its fields made null. -/
def nulled (S : String → Bool) (fields : Fields) : Fields :=
  fields.map fun f => if S f.1 then (f.1, .null) else f

/-- A record without some of its fields. -/
def without (S : String → Bool) (fields : Fields) : Fields := fields.filter fun f => !S f.1

/-- A record has the field `key`, and it is one of some fields. -/
def Nulls (S : String → Bool) (fields : Fields) (key : String) : Prop :=
  S key = true ∧ ∃ v, Json.field? key fields = some v

section

variable {S : String → Bool} {fields : Fields} {key : String}

theorem field?_cons (key : String) (f : String × Json) (fields : Fields) :
    Json.field? key (f :: fields) = if f.1 = key then some f.2 else Json.field? key fields := by
  unfold Json.field?
  by_cases h : f.1 = key
  · simp [h]
  · simp [h]

theorem field?_nulled : Json.field? key (nulled S fields)
    = if S key = true then (Json.field? key fields).map fun _ => .null
      else Json.field? key fields := by
  induction fields with
  | nil => simp [nulled, Json.field?]
  | cons f fields ih =>
    have hname : (if S f.1 = true then (f.1, Json.null) else f).1 = f.1 := by split <;> rfl
    have hcons : nulled S (f :: fields)
        = (if S f.1 = true then (f.1, .null) else f) :: nulled S fields := rfl
    rw [hcons, field?_cons, field?_cons, ih, hname]
    by_cases h : f.1 = key
    · by_cases hS : S key = true
      · simp [h, hS]
      · simp [h, hS]
    · simp [h]

theorem field?_without : Json.field? key (without S fields)
    = if S key = true then none else Json.field? key fields := by
  induction fields with
  | nil => simp [without, Json.field?]
  | cons f fields ih =>
    by_cases hf : S f.1 = true
    · have hcons : without S (f :: fields) = without S fields := by simp [without, hf]
      rw [hcons, ih, field?_cons]
      by_cases h : f.1 = key
      · simp [← h, hf]
      · simp [h]
    · have hcons : without S (f :: fields) = f :: without S fields := by simp [without, hf]
      rw [hcons, field?_cons, field?_cons, ih]
      by_cases h : f.1 = key
      · simp [← h, hf]
      · simp [h]

/-- A field that is null on one side is missing on the other; all others are the same. -/
theorem field?_cases (S : String → Bool) (fields : Fields) (key : String) :
    (Nulls S fields key ∧ Json.field? key (nulled S fields) = some .null ∧
        Json.field? key (without S fields) = none) ∨
      (¬ Nulls S fields key ∧
        Json.field? key (nulled S fields) = Json.field? key (without S fields)) := by
  rw [field?_nulled, field?_without]
  by_cases hS : S key = true
  · cases hv : Json.field? key fields with
    | some v => exact .inl ⟨⟨hS, v, hv⟩, by simp [hS]⟩
    | none =>
      refine .inr ⟨fun h => ?_, by simp [hS]⟩
      obtain ⟨-, v, hv'⟩ := h
      rw [hv] at hv'
      cases hv'
  · exact .inr ⟨fun h => hS h.1, by simp [hS]⟩

/-! ## §2. Ways to read a field. -/

/-- Fields that may be empty do not tell the two apart. -/
theorem orBlank_nulled : orBlank key (nulled S fields) = orBlank key (without S fields) := by
  unfold orBlank
  rcases field?_cases S fields key with ⟨-, hnull, hnone⟩ | ⟨-, heq⟩
  · rw [hnull, hnone]
    rfl
  · rw [heq]

theorem portOf_nulled : portOf key (nulled S fields) = portOf key (without S fields) := by
  unfold portOf
  rcases field?_cases S fields key with ⟨-, hnull, hnone⟩ | ⟨-, heq⟩
  · rw [hnull, hnone]
    rfl
  · rw [heq]

theorem domainOf_nulled : domainOf (nulled S fields) = domainOf (without S fields) := by
  unfold domainOf
  rcases field?_cases S fields "domain" with ⟨-, hnull, hnone⟩ | ⟨-, heq⟩
  · rw [hnull, hnone]
    rfl
  · rw [heq]

theorem numberOf_nulled (hid : S "id" = false) :
    numberOf (nulled S fields) = numberOf fields ∧
      numberOf (without S fields) = numberOf fields := by
  unfold numberOf
  rw [field?_nulled, field?_without, hid]
  exact ⟨rfl, rfl⟩

/-- An address that is null is kept as null, and one that is missing is empty. -/
theorem given_nulled (S : String → Bool) (fields : Fields) (key : String) :
    (Nulls S fields key ∧ given key (nulled S fields) = .null ∧
        given key (without S fields) = .text "") ∨
      (¬ Nulls S fields key ∧ given key (nulled S fields) = given key (without S fields)) := by
  unfold given
  rcases field?_cases S fields key with ⟨hnulls, hnull, hnone⟩ | ⟨hnulls, heq⟩
  · rw [hnull, hnone]
    exact .inl ⟨hnulls, rfl, rfl⟩
  · rw [heq]
    exact .inr ⟨hnulls, rfl⟩

/-- A switch that is null is off, and one that is missing is on. -/
theorem switchOf_nulled (S : String → Bool) (fields : Fields) (key : String) :
    (Nulls S fields key ∧ switchOf key (nulled S fields) = false ∧
        switchOf key (without S fields) = true) ∨
      (¬ Nulls S fields key ∧
        switchOf key (nulled S fields) = switchOf key (without S fields)) := by
  unfold switchOf
  rcases field?_cases S fields key with ⟨hnulls, hnull, hnone⟩ | ⟨hnulls, heq⟩
  · rw [hnull, hnone]
    exact .inl ⟨hnulls, rfl, rfl⟩
  · rw [heq]
    exact .inr ⟨hnulls, rfl⟩

theorem given_nulled_iff :
    given key (nulled S fields) = given key (without S fields) ↔ ¬ Nulls S fields key := by
  rcases given_nulled S fields key with
    ⟨hnulls, hnull, hnone⟩ | ⟨hnulls, heq⟩
  · rw [hnull, hnone]
    exact ⟨nofun, fun h => absurd hnulls h⟩
  · exact ⟨fun _ => hnulls, fun _ => heq⟩

theorem switchOf_nulled_iff :
    switchOf key (nulled S fields) = switchOf key (without S fields) ↔ ¬ Nulls S fields key := by
  rcases switchOf_nulled S fields key with
    ⟨hnulls, hnull, hnone⟩ | ⟨hnulls, heq⟩
  · rw [hnull, hnone]
    exact ⟨nofun, fun h => absurd hnulls h⟩
  · exact ⟨fun _ => hnulls, fun _ => heq⟩

/-- A record states a user name of its own. -/
def Named (fields : Fields) (key : String) : Prop :=
  ∃ v, Json.field? key fields = some v ∧ v.isGiven = true

/-- A user name that is not stated is the address, so it is read as the address is. -/
theorem userOf_nulled_iff : userOf key (nulled S fields) = userOf key (without S fields) ↔
    Named (without S fields) key ∨ ¬ Nulls S fields "email" := by
  unfold userOf
  rcases field?_cases S fields key with ⟨-, hnull, hnone⟩ | ⟨-, heq⟩
  · rw [hnull, hnone]
    have hunnamed : ¬ Named (without S fields) key := by
      rintro ⟨v, hv, -⟩
      rw [hnone] at hv
      cases hv
    rw [or_iff_right hunnamed]
    exact given_nulled_iff
  · rw [heq]
    cases hv : Json.field? key (without S fields) with
    | none =>
      have hunnamed : ¬ Named (without S fields) key := by
        rintro ⟨v, hv', -⟩
        rw [hv] at hv'
        cases hv'
      rw [or_iff_right hunnamed]
      exact given_nulled_iff
    | some v =>
      by_cases hgiven : v.isGiven = true
      · simp only [hgiven, if_true]
        exact ⟨fun _ => .inl ⟨v, hv, hgiven⟩, fun _ => trivial⟩
      · have hunnamed : ¬ Named (without S fields) key := by
          rintro ⟨w, hw, hwgiven⟩
          obtain rfl := Option.some.inj (hv.symm.trans hw)
          exact hgiven hwgiven
        rw [or_iff_right hunnamed]
        simp only [hgiven]
        exact given_nulled_iff

/-! ## §3. Records. -/

/-- Both readings need the same numbers, so both end in a mailbox or both in one error. -/
theorem ofJson_nulled (hid : S "id" = false) :
    (∃ e, Mailbox.ofJson (.object (nulled S fields)) = .error e ∧
        Mailbox.ofJson (.object (without S fields)) = .error e) ∨
      ∃ id p q,
        Mailbox.ofJson (.object (nulled S fields)) = .ok (described (nulled S fields) id p q) ∧
        Mailbox.ofJson (.object (without S fields))
          = .ok (described (without S fields) id p q) := by
  rw [mailbox_object_eq, mailbox_object_eq, (numberOf_nulled hid).1, (numberOf_nulled hid).2,
    portOf_nulled, portOf_nulled]
  cases numberOf fields with
  | error e => exact .inl ⟨e, rfl, rfl⟩
  | ok id =>
    cases portOf "imapPort" (without S fields) with
    | error e => exact .inl ⟨e, rfl, rfl⟩
    | ok p =>
      cases portOf "smtpPort" (without S fields) with
      | error e => exact .inl ⟨e, rfl, rfl⟩
      | ok q => exact .inr ⟨id, p, q, rfl, rfl⟩

theorem described_eq_iff {id p q : Int} :
    described (nulled S fields) id p q = described (without S fields) id p q ↔
      ¬ Nulls S fields "email" ∧ ¬ Nulls S fields "imapTLS" ∧ ¬ Nulls S fields "smtpTLS" := by
  unfold described accessOf
  simp only [Mailbox.mk.injEq, Access.mk.injEq, orBlank_nulled, given_nulled_iff,
    switchOf_nulled_iff, userOf_nulled_iff, true_and, and_true]
  constructor
  · rintro ⟨hemail, ⟨himap, -⟩, hsmtp, -⟩
    exact ⟨hemail, himap, hsmtp⟩
  · rintro ⟨hemail, himap, hsmtp⟩
    exact ⟨hemail, ⟨himap, .inr hemail⟩, hsmtp, .inr hemail⟩

theorem entry_nulled_iff {id : Int} (hid : S "id" = false) (hnumber : numberOf fields = .ok id) :
    Entry.ofJson (.object (nulled S fields)) = Entry.ofJson (.object (without S fields)) ↔
      ¬ Nulls S fields "email" := by
  rw [entry_object_eq, entry_object_eq, (numberOf_nulled hid).1, (numberOf_nulled hid).2, hnumber]
  unfold listed
  simp only [Except.map, Except.ok.injEq, Entry.mk.injEq, orBlank_nulled, domainOf_nulled,
    given_nulled_iff, true_and, and_true]

/-! ## §4. Connections. -/

/-- An IMAP connection is opened alike exactly if the switch is read alike. -/
theorem imap_endpoint_iff {id p q : Int} (t : Imap.Transport) :
    t.endpoint (described (nulled S fields) id p q)
        = t.endpoint (described (without S fields) id p q) ↔ ¬ Nulls S fields "imapTLS" := by
  unfold Imap.Transport.endpoint described accessOf
  simp only [Imap.Endpoint.mk.injEq, orBlank_nulled, switchOf_nulled_iff, and_true]
  rfl

/-- An SMTP connection is opened alike exactly if the switch is read alike; the port follows
the switch where none is stated. -/
theorem smtp_endpoint_iff {id p q : Int} (s : Smtp.Sender) :
    s.endpoint (described (nulled S fields) id p q)
        = s.endpoint (described (without S fields) id p q) ↔ ¬ Nulls S fields "smtpTLS" := by
  have hswitch : switchOf ("smtp" ++ "TLS") (nulled S fields)
      = switchOf ("smtp" ++ "TLS") (without S fields) ↔ ¬ Nulls S fields "smtpTLS" :=
    switchOf_nulled_iff
  unfold Smtp.Sender.endpoint described accessOf
  simp only [Imap.Endpoint.mk.injEq, orBlank_nulled, true_and, and_true]
  constructor
  · rintro ⟨hsecure, -⟩
    exact hswitch.1 hsecure
  · intro hnulls
    have hsecure := hswitch.2 hnulls
    exact ⟨hsecure, by rw [hsecure]⟩

/-- **A null field is a missing field, but for the address and the TLS switches.**  Let some
fields of a record with a number, other than that number, be null, or let them be left out.
The entry of the listing is the same exactly if the address is not among them.  A mailbox is
read in both cases or in neither, with the same error; it is the same exactly if neither the
address nor a TLS switch is among them.  Each server is reached in the same way exactly if its
switch is not: one that is null is off, one that is missing is on.  A user is the same unless
the address stands for it and is among them. -/
theorem null_absent_iff {id : Int} (hid : S "id" = false) (hnumber : numberOf fields = .ok id) :
    (Entry.ofJson (.object (nulled S fields)) = Entry.ofJson (.object (without S fields)) ↔
        ¬ Nulls S fields "email") ∧
      (∀ e, Mailbox.ofJson (.object (nulled S fields)) = .error e ↔
        Mailbox.ofJson (.object (without S fields)) = .error e) ∧
      ∀ m m', Mailbox.ofJson (.object (nulled S fields)) = .ok m →
        Mailbox.ofJson (.object (without S fields)) = .ok m' →
        (m = m' ↔ ¬ Nulls S fields "email" ∧ ¬ Nulls S fields "imapTLS" ∧
          ¬ Nulls S fields "smtpTLS") ∧
        (∀ t : Imap.Transport, t.endpoint m = t.endpoint m' ↔ ¬ Nulls S fields "imapTLS") ∧
        (∀ s : Smtp.Sender, s.endpoint m = s.endpoint m' ↔ ¬ Nulls S fields "smtpTLS") ∧
        (Nulls S fields "imapTLS" → m.imap.tls = false ∧ m'.imap.tls = true) ∧
        (Nulls S fields "smtpTLS" → m.smtp.tls = false ∧ m'.smtp.tls = true) ∧
        (m.imap.user = m'.imap.user ↔
          Named (without S fields) "imapUsername" ∨ ¬ Nulls S fields "email") ∧
        (m.smtp.user = m'.smtp.user ↔
          Named (without S fields) "smtpUsername" ∨ ¬ Nulls S fields "email") := by
  refine ⟨entry_nulled_iff hid hnumber, ?_, ?_⟩
  · intro e
    rcases ofJson_nulled hid with ⟨f, hnull, hnone⟩ | ⟨id, p, q, hnull, hnone⟩
    · rw [hnull, hnone]
    · rw [hnull, hnone]
      exact ⟨nofun, nofun⟩
  · intro m m' hm hm'
    rcases ofJson_nulled hid with ⟨f, hnull, hnone⟩ | ⟨id, p, q, hnull, hnone⟩
    · rw [hnull] at hm
      cases hm
    obtain rfl := Except.ok.inj (hnull.symm.trans hm)
    obtain rfl := Except.ok.inj (hnone.symm.trans hm')
    have hoff : ∀ key, Nulls S fields key →
        switchOf key (nulled S fields) = false ∧ switchOf key (without S fields) = true := by
      intro key hnulls
      rcases switchOf_nulled S fields key with ⟨-, hread⟩ | ⟨hnot, -⟩
      · exact hread
      · exact absurd hnulls hnot
    exact ⟨described_eq_iff, imap_endpoint_iff, smtp_endpoint_iff, hoff "imapTLS", hoff "smtpTLS",
      userOf_nulled_iff, userOf_nulled_iff⟩

end

namespace Sample

/-- A record with most of the fields that there are. -/
def record : Fields :=
  [("id", .text "7"), ("email", .text "ada@example.com"), ("imapHost", .text "imap.example.com"),
   ("imapPort", .int 143), ("imapTLS", .bool true), ("smtpTLS", .bool false),
   ("smtpUsername", .text "ada")]

end Sample

open Sample in
/-- The port and the user of one server and the switch of the other are null: only the switch
makes a difference. -/
theorem null_absent_iff_sample :
    let S : String → Bool := fun key => ["imapPort", "smtpUsername", "smtpTLS"].contains key
    S "id" = false ∧ numberOf record = .ok 7 ∧
      ∃ m m', Mailbox.ofJson (.object (nulled S record)) = .ok m ∧
        Mailbox.ofJson (.object (without S record)) = .ok m' ∧
        (∀ t : Imap.Transport, t.endpoint m = t.endpoint m') ∧
        m.imap.user = m'.imap.user ∧ m.smtp.user = m'.smtp.user ∧
        ∀ s : Smtp.Sender, s.endpoint m ≠ s.endpoint m' := by
  intro S
  have hid : S "id" = false := by decide
  have hnumber : numberOf record = .ok 7 := rfl
  obtain ⟨id, p, q, hm, hm'⟩ : ∃ id p q, Mailbox.ofJson (.object (nulled S record))
        = .ok (described (nulled S record) id p q) ∧
      Mailbox.ofJson (.object (without S record)) = .ok (described (without S record) id p q) := by
    have hread : (Mailbox.ofJson (.object (without S record))).isOk = true := by decide +kernel
    refine (ofJson_nulled hid).resolve_left ?_
    rintro ⟨e, -, hnone⟩
    rw [hnone] at hread
    cases hread
  obtain ⟨-, -, hiff⟩ := null_absent_iff hid hnumber
  obtain ⟨-, himap, hsmtp, -, -, huser, huser'⟩ := hiff _ _ hm hm'
  have hswitch : Nulls S record "smtpTLS" := ⟨rfl, _, rfl⟩
  have hkept : ∀ key, S key = false → ¬ Nulls S record key := by
    intro key hkey hnulls
    rw [hnulls.1] at hkey
    cases hkey
  refine ⟨hid, hnumber, _, _, hm, hm', fun t => (himap t).2 (hkept _ (by decide)),
    huser.2 (.inr (hkept _ (by decide))), huser'.2 (.inr (hkept _ (by decide))), ?_⟩
  intro s heq
  exact (hsmtp s).1 heq hswitch

open Sample in
/-- **A switch that is null is off**, and one that is missing is on. -/
theorem null_drops_tls :
    ¬ ∀ (S : String → Bool) (fields : Fields) (id : Int), S "id" = false →
      numberOf fields = .ok id →
      Mailbox.ofJson (.object (nulled S fields)) = Mailbox.ofJson (.object (without S fields)) := by
  intro h
  have hsame := h (· == "imapTLS") record 7 (by decide) rfl
  have htls := congrArg (fun read => (read.toOption.map (·.imap.tls))) hsame
  revert htls
  decide +kernel

end Mailroom.Directory
