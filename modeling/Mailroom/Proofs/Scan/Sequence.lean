import Mailroom.Proofs.Dialogue.Alike
import Mailroom.Proofs.Scan.Isolation
/-!
  Mailroom.Proofs.Scan.Sequence
  ────────────────────────────────
  **A FULL SCAN IS A SEQUENCE OF SCANS OF SINGLE ACCOUNTS.**

  The scan of an account begins with nothing and leaves nothing behind but what it did
  to the mail.  So it makes no difference whether the accounts of the directory are
  gone through in one scan, or in one scan each, found by their addresses.

      Settled         — what answers may depend on
      one_by_one      — same results and same mail, whatever fails on the way
-/
namespace Mailroom.Scan

open Mailroom.Imap Mailroom.Directory Mailroom.Simulation Mailroom.Text
open Mailroom.Dialogue (Alike Plain Idle Ends ends_view bind_bind)

/-! ## §1. What answers may depend on. -/

/-- A question for the record of a mailbox, for its server or for the classifier. -/
def Engine.IsOwn (e : Engine) : Mailroom.Command → Prop
  | .get r => ∃ id : Int, r.url = e.directory.urlOf s!"mailboxes/{id}"
  | .connect _ | .imap _ | .classify _ => True
  | _ => False

/-- A question that has to do with no mailbox. -/
def IsIdle : Mailroom.Command → Prop
  | .scanId | .clock | .draw | .sleep _ => True
  | _ => False

/-- A world with a view of its mail: the directory always lists the same entries, and
what is answered about mailboxes and done to them is a matter of the mail alone.  The
mail may include what servers were asked so far, and so whatever makes them fail. -/
structure Settled {σ μ : Type} (e : Engine) (answer : (c : Mailroom.Command) → σ → c.Answer × σ)
    (mail : σ → μ) (entries : List Entry) : Prop where
  listing : ∀ s, (e.directory.list.run.run answer s).1 = .ok entries ∧
    mail (e.directory.list.run.run answer s).2 = mail s
  idle : ∀ c, IsIdle c → Idle answer mail c
  own : ∀ c, e.IsOwn c → Plain answer mail c

variable {σ μ α β : Type} {e : Engine} {answer : (c : Mailroom.Command) → σ → c.Answer × σ}
  {mail : σ → μ} {entries : List Entry}

theorem alike_program_bind {prog prog' : Program α} {f f' : α → Program β}
    (h : Alike answer mail prog.run prog'.run)
    (hf : ∀ a, Alike answer mail (f a).run (f' a).run) :
    Alike answer mail (prog >>= f).run (prog' >>= f').run := by
  rw [Program.run_bind, Program.run_bind]
  refine h.bind fun x _ _ => ?_
  rcases x with f | a
  · exact .pure _
  · exact hf a

theorem alike_ask_bind {c : Mailroom.Command} {f f' : c.Answer → Program β}
    (hc : Plain answer mail c) (h : ∀ r, Alike answer mail (f r).run (f' r).run) :
    Alike answer mail (Program.ask c >>= f).run (Program.ask c >>= f').run :=
  .ask hc h

theorem alike_idle_bind {c : Mailroom.Command} {f : c.Answer → Program β}
    {d : Dialogue (Except Failure β)} (hc : Idle answer mail c)
    (h : ∀ r, Alike answer mail (f r).run d) : Alike answer mail (Program.ask c >>= f).run d :=
  .idle hc h

/-! ## §2. One account. -/

/-- The length of a pause is left to chance and does not matter. -/
theorem Settled.pause (hw : Settled e answer mail entries) (c : Client) (index : Nat)
    (r? : Option Directory.Response) {prog prog' : Program α} (h : Alike answer mail prog.run prog'.run) :
    Alike answer mail (c.pause index r? >>= fun _ => prog).run
      (c.pause index r? >>= fun _ => prog').run := by
  have hleft : ∀ {prog prog' : Program α}, Alike answer mail prog.run prog'.run →
      Alike answer mail (c.pause index r? >>= fun _ => prog).run prog'.run := by
    intro prog prog' h
    unfold Client.pause
    rw [bind_assoc]
    refine alike_idle_bind (hw.idle .draw trivial) fun _ => ?_
    exact alike_idle_bind (hw.idle (.sleep _) trivial) fun _ => h
  exact hleft (hleft h.symm).symm

theorem Settled.attempts (hw : Settled e answer mail entries) (id : Int) (left index : Nat) :
    Alike answer mail (e.directory.attempts s!"mailboxes/{id}" .null left index).run
      (e.directory.attempts s!"mailboxes/{id}" .null left index).run := by
  induction left generalizing index with
  | zero => exact .pure _
  | succ left ih =>
    unfold Client.attempts
    refine alike_ask_bind (hw.own (.get _) ⟨id, rfl⟩) fun r => ?_
    cases r with
    | foreign _ | refused _ => exact .pure _
    | unreachable _ =>
      dsimp only
      split
      · exact .pure _
      · exact hw.pause _ _ _ (ih _)
    | response r =>
      dsimp only
      split
      · cases r.body <;> exact .pure _
      · split
        · exact hw.pause _ _ _ (ih _)
        · exact .pure _

/-- The scan of an account whose record was read. -/
def Engine.visit (e : Engine) (entry : Entry) (m : Mailbox) : Dialogue Progress :=
  (e.transport.within m (e.scanSession { account := entry.email })).run.bind fun x => match x with
    | .ok pr => .pure pr
    | .error f => .pure { result := { account := entry.email }, failure := some f }

theorem scanEntry_eq (e : Engine) (entry : Entry) :
    e.scanEntry entry = (e.directory.mailbox entry.id).run.bind fun x => match x with
      | .ok m => e.visit entry m
      | .error f => .pure { result := { account := entry.email }, failure := some f } := by
  unfold Engine.scanEntry
  show Dialogue.bind (e.directory.mailbox entry.id >>= _).run _ = _
  rw [Program.run_bind, bind_bind]
  congr 1
  funext x
  rcases x with f | m <;> rfl

/-- Once the record was read, there is nothing to ask that is not the account's own. -/
theorem Settled.visit (hw : Settled e answer mail entries) (entry : Entry) {m : Mailbox}
    {tr : List Event} (hm : Ends (fun _ _ _ _ => True) (e.directory.mailbox entry.id).run () tr
      (.ok m) ()) : Alike answer mail (e.visit entry m) (e.visit entry m) := by
  have habides := (scanEntry_abides e entry ()).reaches (scanEntry_eq e entry ▸ hm.bind _)
  have hvisit : (e.visit entry m).Keeps _ _ _ ([] ++ tr) () := habides
  -- The visit begins with the connection, and after it the rule admits no pause.
  obtain ⟨next, hnext⟩ : ∃ next, e.visit entry m = .ask (.connect (e.transport.endpoint m)) next :=
    ⟨_, rfl⟩
  rw [hnext] at hvisit ⊢
  refine .ask (hw.own (.connect _) trivial) fun r => ?_
  refine .of_keeps (P := Connected) (hvisit.2 r () trivial) ⟨_, List.mem_append_right _
    List.mem_cons_self, _, rfl⟩ fun tr c r hc hconnected => ⟨hw.own c ?_, ?_⟩
  · cases c <;> first | trivial | exact absurd hconnected hc.1
  · obtain ⟨ev, hev, hconnect⟩ := hconnected
    exact ⟨ev, List.mem_append_left _ hev, hconnect⟩

/-- **The scan of an account is a matter of the mail.** -/
theorem Settled.scanEntry (hw : Settled e answer mail entries) (entry : Entry) :
    Alike answer mail (e.scanEntry entry) (e.scanEntry entry) := by
  rw [scanEntry_eq]
  have hmailbox : Alike answer mail (e.directory.mailbox entry.id).run
      (e.directory.mailbox entry.id).run := by
    unfold Client.mailbox Client.request
    refine alike_program_bind (hw.attempts _ _ _) fun body => ?_
    cases Mailbox.ofJson body <;> exact .pure _
  refine hmailbox.bind fun x s hx => ?_
  rcases x with f | m
  · exact .pure _
  · have hends : Ends (fun _ _ _ _ => True) (e.directory.mailbox entry.id).run ()
        ((e.directory.mailbox entry.id).run.trace answer s)
        ((e.directory.mailbox entry.id).run.run answer s).1 () :=
      ends_view (fun _ => ()) (fun _ => True) (fun _ _ _ => ⟨trivial, trivial⟩) _ trivial
    rw [hx] at hends
    exact hw.visit entry hends

/-! ## §3. All accounts. -/

theorem Settled.scanAll (hw : Settled e answer mail entries) (es : List Entry) :
    Alike answer mail (e.scanAll es).run (e.scanAll es).run := by
  induction es with
  | nil => exact .pure _
  | cons entry es ih =>
    rw [scanAll_cons]
    refine (hw.scanEntry entry).bind fun pr _ _ => ?_
    cases pr.close with
    | error f => exact .pure _
    | ok r => exact alike_program_bind ih fun rs => .pure _

/-- A scan, and what is done with its results, comes to the scan of the entries that it
chooses. -/
theorem Settled.run (hw : Settled e answer mail entries) {address : Option String}
    {es : List Entry} (hes : chosen address entries = .ok es)
    {f f' : List AccountResult → Program β} (hf : ∀ rs, Alike answer mail (f rs).run (f' rs).run) :
    Alike answer mail (e.run address >>= fun report => f report.results).run
      (e.scanAll es >>= f').run := by
  unfold Engine.run
  simp only [bind_assoc, pure_bind]
  refine alike_idle_bind (hw.idle .scanId trivial) fun _ => ?_
  refine alike_idle_bind (hw.idle .clock trivial) fun _ => ?_
  rw [Program.run_bind]
  refine .drop hw.listing ?_
  simp only [hes]
  refine alike_program_bind (hw.scanAll es) fun rs => ?_
  exact alike_idle_bind (hw.idle .clock trivial) fun _ => hf rs

/-- Scans the accounts with some addresses, each in a scan of its own. -/
def Engine.oneByOne (e : Engine) : List String → Program (List AccountResult)
  | [] => return []
  | a :: as => do
    let report ← e.run (some a)
    return report.results ++ (← e.oneByOne as)

/-- By induction on the accounts: the first one is scanned, and then the others. -/
theorem Settled.oneByOne (hw : Settled e answer mail entries) {es : List Entry} {as : List String}
    (h : List.Forall₂ (fun entry a => chosen (some a) entries = .ok [entry]) es as) :
    Alike answer mail (e.scanAll es).run (e.oneByOne as).run := by
  induction h with
  | nil => exact .pure _
  | @cons entry a es as hchosen _ ih =>
    have hrest : ∀ rs, Alike answer mail (e.oneByOne as >>= fun rest => pure (rs ++ rest)).run
        (e.scanAll es >>= fun rest => pure (rs ++ rest)).run :=
      fun rs => alike_program_bind ih.symm fun rest => .pure _
    refine .trans ?_ (hw.run hchosen hrest).symm
    rw [scanAll_cons, Program.run_bind, scanAll_cons, bind_bind]
    refine (hw.scanEntry entry).bind fun pr _ _ => ?_
    -- An account that breaks the scan breaks the single scans in its place.
    cases pr.close with
    | error f => exact .pure _
    | ok r => exact alike_program_bind (hw.scanAll es) fun rs => .pure _

/-! ## §4. Addresses. -/

theorem filterM_ok {ε : Type} {p : α → Except ε Bool} {q : α → Bool} {as : List α}
    (h : ∀ a ∈ as, p a = .ok (q a)) : as.filterM p = .ok (as.filter q) := by
  have haux : ∀ found, List.filterAuxM p as found = .ok ((as.filter q).reverse ++ found) := by
    induction as with
    | nil => exact fun _ => rfl
    | cons a as ih =>
      intro found
      simp only [List.filterAuxM, h a List.mem_cons_self, bind, Except.bind]
      rw [ih fun b hb => h b (List.mem_cons_of_mem _ hb)]
      cases hq : q a <;> simp [hq]
  simp only [List.filterM, haux, bind, Except.bind, pure, Except.pure, List.append_nil,
    List.reverse_reverse]

theorem filter_key {κ : Type} [DecidableEq κ] {key : α → κ} {as : List α} {a : α}
    (hnodup : (as.map key).Nodup) (ha : a ∈ as) : (as.filter fun b => key b == key a) = [a] := by
  induction as with
  | nil => cases ha
  | cons b as ih =>
    obtain ⟨hb, has⟩ := List.nodup_cons.1 hnodup
    rcases List.mem_cons.1 ha with rfl | ha
    · -- Nobody else has the key of the first.
      have hnone : (as.filter fun b => key b == key a) = [] := by
        refine List.filter_eq_nil_iff.2 fun b hmem => ?_
        simp only [beq_iff_eq]
        exact fun heq => hb (heq ▸ List.mem_map_of_mem hmem)
      simp [hnone]
    · have hne : key b ≠ key a := fun heq => hb (heq ▸ List.mem_map_of_mem ha)
      simp [hne, ih has ha]

/-- The address of an entry, if it is a text. -/
def addressOf (entry : Entry) : String :=
  match entry.email with
  | .text a => a
  | _ => ""

/-- Where addresses differ in more than case, and none has white space around it, each one
chooses its entry. -/
theorem chosen_of_addresses {addresses : List String}
    (htext : entries.map (·.email) = addresses.map Json.text)
    (hdistinct : (addresses.map lower).Nodup) (htrim : ∀ a ∈ addresses, trim a = a) :
    List.Forall₂ (fun entry a => chosen (some a) entries = .ok [entry]) entries addresses := by
  have haddresses : entries.map addressOf = addresses := by
    have h := congrArg (List.map fun j => match j with | Json.text a => a | _ => "") htext
    rw [List.map_map, List.map_map] at h
    exact h.trans (List.map_id _)
  subst haddresses
  have hemail : ∀ entry ∈ entries, entry.email = .text (addressOf entry) := by
    simpa [List.map_map, List.map_inj_left] using htext
  rw [List.map_map] at hdistinct
  rw [List.forall₂_map_right_iff, List.forall₂_same]
  intro entry hentry
  have hfound : entries.filterM (Entry.hasAddress (lower (trim (addressOf entry))))
      = .ok [entry] := by
    rw [htrim _ (List.mem_map_of_mem hentry)]
    refine (filterM_ok fun other hother => ?_).trans
      (congrArg Except.ok (filter_key hdistinct hentry))
    simp only [Entry.hasAddress, hemail other hother]
    rfl
  simp only [chosen, hfound]

/-! ## §5. The two ways. -/

/-- **A full scan is the sequence of the scans of its accounts.**  Where the addresses of
the directory tell its entries apart, a scan of all accounts has the results of the scans
of single accounts in the order of the listing, and leaves the same mail.  If the scan of
an account fails with more than an error of the account, so do both. -/
theorem one_by_one {addresses : List String} (hw : Settled e answer mail entries)
    (htext : entries.map (·.email) = addresses.map Json.text)
    (hdistinct : (addresses.map lower).Nodup) (htrim : ∀ a ∈ addresses, trim a = a) {s t : σ}
    (hmail : mail s = mail t) :
    ((e.run none).run.run answer s).1.map (·.results)
        = ((e.oneByOne addresses).run.run answer t).1 ∧
      mail ((e.run none).run.run answer s).2
        = mail ((e.oneByOne addresses).run.run answer t).2 := by
  have hchosen : chosen none entries = .ok entries := rfl
  have hall : Alike answer mail (e.run none >>= fun report => pure report.results).run
      (e.scanAll entries >>= pure).run := hw.run hchosen fun rs => .pure _
  rw [bind_pure] at hall
  have hboth := hall.trans (hw.oneByOne (chosen_of_addresses htext hdistinct htrim)) s t hmail
  rw [Program.run_bind, Dialogue.run_bind] at hboth
  cases hx : ((e.run none).run.run answer s).1 <;> rw [hx] at hboth <;> exact hboth

namespace Sample

/-- A world that always lists the accounts of the fleet; what has to do with no mailbox
leaves no mark on it. -/
def office (c : Mailroom.Command) (w : World) : c.Answer × World :=
  match c with
  | .get r =>
    if World.lastPart r.url == "mailboxes" then (fleet.recordAt r.url, w) else w.get r
  | .scanId => (Script.someScanId, w)
  | .clock => (0, w)
  | .draw => (Script.half, w)
  | .sleep _ => ((), w)
  | c => World.answer c w

/-- The entries that it lists. -/
def listed : List Entry := (engine.directory.list.run.run office fleet).1.toOption.getD []

theorem settled : Settled engine office id listed where
  listing _ := ⟨rfl, rfl⟩
  idle c hc s := by cases c <;> first | rfl | cases hc
  own c _ s t hst := by
    cases hst
    exact ⟨rfl, rfl⟩

end Sample

open Sample in
theorem one_by_one_sample :
    ((engine.run none).run.run office fleet).1.map (·.results)
        = ((engine.oneByOne ["me@x.io", "us@x.io"]).run.run office fleet).1 ∧
      ((engine.run none).run.run office fleet).2
        = ((engine.oneByOne ["me@x.io", "us@x.io"]).run.run office fleet).2 ∧
      ((engine.run none).run.run office fleet).1.toOption.isSome := by
  have haddresses : listed.map (·.email) = ["me@x.io", "us@x.io"].map Json.text := rfl
  have h := one_by_one settled haddresses (by decide +kernel) (by decide +kernel)
    (rfl : fleet = fleet)
  exact ⟨h.1, h.2, by decide +kernel⟩

end Mailroom.Scan
