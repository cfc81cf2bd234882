import Mailroom.Proofs.Directory.Lookup
import Mailroom.Proofs.Imap.Reference
/-!
  Mailroom.Proofs.Imap.Obliging
  ────────────────────────────────
  **WITH A SERVER THAT DOES WHAT IT IS ASKED, READING RETURNS.**

  An obliging server carries out every command and answers so that the answer can be
  read; in which order it lists UIDs and messages is left to it.  The directory has the
  record of one mailbox.  Under this law the programs that read a folder cannot fail:

      Returns law prog R ss s — every run of a program of a session returns a value, and
                                `R` holds of it and of what is left
      Yields law prog R s     — the same of a program outside of sessions

  There is one rule for each way to build a program, and only the branch that goes on
  has to be looked at.

      yields_mailboxAt                               — what the directory is asked for
      yields_within                                  — a session of its own
      returns_resolve, returns_search, returns_fetch — the commands of a session
      Reference.ends_obliging                        — a run that keeps the law
-/
namespace Mailroom.Imap

open Mailroom.Directory Mailroom.Mail Mailroom.Scan Mailroom.Text

/-! ## §1. The law. -/

/-- A command was carried out, and the answer to it can be read. -/
def Carried : Command → Except Fault Response → Prop
  | .search _, r => ∃ items uids, accepted? r = some items ∧ uidsOf items = .ok uids
  | .fetch _, r => ∃ items found, accepted? r = some items ∧ readFetch items = .ok found
  | .list, r => ∃ items folders, accepted? r = some items ∧ readFolders items = .ok folders
  | .select _ _, r | .store _ _ _, r | .append _ _ _, r | .startTls, r | .login _ _, r
  | .logout, r => ∃ items, accepted? r = some items

/-- An answer that gives what was asked for. -/
def Granted (found : Directory.Request → Directory.Outcome → Prop) : Event → Prop
  | ⟨.imap c, r⟩ => Carried c r
  | ⟨.connect e, r⟩ => (∃ h, e.host = .text h) ∧ ∃ capabilities, r = .ok capabilities
  | ⟨.get q, r⟩ => found q r
  | _ => True

/-- The law of an obliging server whose sent folder is known, and of a directory. -/
def obliging (sent : String) (found : Directory.Request → Directory.Outcome → Prop) : Law Site :=
  fun s c r s' => ({ sent } : Regime).law s c r s' ∧ Granted found ⟨c, r⟩

/-- A directory supplies a record at a place. -/
def Brings (found : Directory.Request → Directory.Outcome → Prop) (url : String)
    (body : Json) : Prop :=
  ∀ q r, q.url = url → found q r →
    ∃ response, r = .response response ∧ response.status < 400 ∧ response.body = some body

/-- A directory knows a mailbox by its address. -/
structure Registered (found : Directory.Request → Directory.Outcome → Prop) (c : Client)
    (email : String) (m : Mailbox) : Prop where
  attempted : 0 ≤ c.maxRetries
  known : ∃ listing entries entry record, Brings found (c.urlOf "mailboxes") listing ∧
    entriesOf listing = .ok entries ∧
    findAddress? (lower (trim email)) entries = .ok (some entry) ∧
    Brings found (c.urlOf s!"mailboxes/{entry.id}") record ∧ Mailbox.ofJson record = .ok m

/-- The folder that a name stands for. -/
def folderOf (sentFolder name : String) : String :=
  if isWord inbox (trim name) then inbox
  else if isWord sent (trim name) then sentFolder
  else name

/-! ## §2. Programs that return. -/

section

variable {σ α β : Type} {law : Law σ} {ss : Session} {s : σ}

/-- Every run of a program of a session returns a value for which `R` holds. -/
structure Returns (law : Law σ) (prog : SessionM α) (R : α → Session → σ → Prop) (ss : Session)
    (s : σ) : Prop where
  upholds : ∀ tr,
    Upholds law (fun _ _ => True) prog (fun x ss _ s => ∃ a, x = .ok a ∧ R a ss s) ss tr s

/-- Every run of a program returns a value for which `R` holds. -/
structure Yields (law : Law σ) (prog : Program α) (R : α → σ → Prop) (s : σ) : Prop where
  keeps : ∀ tr, prog.run.Keeps law (fun _ _ => True) (fun x _ s => ∃ a, x = .ok a ∧ R a s) tr s

namespace Returns

variable {R : α → Session → σ → Prop} {S : β → Session → σ → Prop} {prog : SessionM α}

theorem bind {f : α → SessionM β} (h : Returns law prog R ss s)
    (hf : ∀ a ss s, R a ss s → Returns law (f a) S ss s) : Returns law (prog >>= f) S ss s where
  upholds tr := by
    refine Upholds.bind (h.upholds tr) (fun a ss tr s _ ha => ?_) fun e ss tr s _ he => ?_
    · obtain ⟨b, hb, hR⟩ := ha
      cases hb
      exact (hf a ss s hR).upholds tr
    · obtain ⟨b, hb, -⟩ := he
      cases hb

theorem mono {R' : α → Session → σ → Prop} (h : Returns law prog R ss s)
    (hR : ∀ a ss s, R a ss s → R' a ss s) : Returns law prog R' ss s where
  upholds tr := (h.upholds tr).mono fun x ss tr s _ hx => by
    obtain ⟨a, rfl, ha⟩ := hx
    exact ⟨a, rfl, hR a ss s ha⟩

theorem pure {a : α} (h : R a ss s) : Returns law (pure a) R ss s :=
  ⟨fun _ => Upholds.pure trivial ⟨a, rfl, h⟩⟩

theorem session_bind {f : Session → SessionM β} (h : Returns law (f ss) S ss s) :
    Returns law (SessionM.session >>= f) S ss s :=
  ⟨fun tr => Upholds.session_bind (h.upholds tr)⟩

theorem update_bind {u : Session → Session} {f : Unit → SessionM β}
    (h : Returns law (f ()) S (u ss) s) : Returns law (SessionM.update u >>= f) S ss s :=
  ⟨fun tr => Upholds.update_bind (h.upholds tr)⟩

theorem update {u : Session → Session} {R : Unit → Session → σ → Prop} (h : R () (u ss) s) :
    Returns law (SessionM.update u) R ss s :=
  ⟨fun _ => Upholds.update trivial ⟨(), rfl, h⟩⟩

theorem ask_bind {c : Mailroom.Command} {f : c.Answer → SessionM β}
    (h : ∀ r s', law s c r s' → Returns law (f r) S ss s') :
    Returns law (SessionM.ask c >>= f) S ss s :=
  ⟨fun _ => Upholds.ask_bind trivial fun r s' hr => (h r s' hr).upholds _⟩

theorem ofExcept_bind {ε : Type} {failure : ε → Failure} {x : Except ε α} {a : α}
    {f : α → SessionM β} (hx : x = .ok a) (h : Returns law (f a) S ss s) :
    Returns law (SessionM.ofExcept failure x >>= f) S ss s := by
  subst hx
  exact h

/-- A command that is carried out. -/
theorem command_bind {operation : Operation} {folder : Option String} {c : Command}
    {f : List Item → SessionM β}
    (h : ∀ r s', law s (.imap c) r s' →
      ∃ items, accepted? r = some items ∧ Returns law (f items) S ss s') :
    Returns law (command operation folder c >>= f) S ss s where
  upholds tr := by
    refine Upholds.command_bind trivial (fun r s' items hr ha => ?_) fun r s' e hr he => ?_
    · obtain ⟨items', ha', hf⟩ := h r s' hr
      obtain rfl : items = items' := Option.some.inj (ha.symm.trans ha')
      exact hf.upholds _
    · obtain ⟨items, ha, -⟩ := h r s' hr
      rw [outcome_eq_ok.2 ha] at he
      cases he

end Returns

namespace Yields

variable {R R' : α → σ → Prop} {S : β → σ → Prop} {prog : Program α}

theorem mono (h : Yields law prog R s) (hR : ∀ a s, R a s → R' a s) : Yields law prog R' s where
  keeps tr := (h.keeps tr).mono fun x tr s _ hx => by
    obtain ⟨a, rfl, ha⟩ := hx
    exact ⟨a, rfl, hR a s ha⟩

theorem bind {f : α → Program β} (h : Yields law prog R s)
    (hf : ∀ a s, R a s → Yields law (f a) S s) : Yields law (prog >>= f) S s where
  keeps tr := by
    refine keeps_program_bind (h.keeps tr) (fun a tr s _ ha => ?_) fun e tr s _ he => ?_
    · obtain ⟨b, hb, hR⟩ := ha
      cases hb
      exact (hf a s hR).keeps tr
    · obtain ⟨b, hb, -⟩ := he
      cases hb

theorem pure {a : α} (h : R a s) : Yields law (pure a) R s := ⟨fun _ => ⟨trivial, a, rfl, h⟩⟩

theorem ask_bind {c : Mailroom.Command} {f : c.Answer → Program β}
    (h : ∀ r s', law s c r s' → Yields law (f r) S s') : Yields law (Program.ask c >>= f) S s :=
  ⟨fun _ => keeps_ask_bind trivial fun r s' hr => (h r s' hr).keeps _⟩

theorem ofMisuse {x : Except Json.Misuse α} {a : α} (hx : x = .ok a) (h : R a s) :
    Yields law (Program.ofMisuse x) R s := by
  subst hx
  exact pure h

theorem ofExcept_bind {x : Except Failure α} {a : α} {f : α → Program β} (hx : x = .ok a)
    (h : Yields law (f a) S s) : Yields law (Program.ofExcept x >>= f) S s := by
  subst hx
  exact h

/-- Some programs one after the other, each of which keeps what the next one needs. -/
theorem mapM {γ : Type} {I : σ → Prop} {T : γ → β → Prop} {f : γ → Program β} {xs : List γ}
    (hf : ∀ x ∈ xs, ∀ s, I s → Yields law (f x) (fun b s' => T x b ∧ I s') s) (hI : I s) :
    Yields law (xs.mapM f) (fun bs s' => List.Forall₂ T xs bs ∧ I s') s := by
  induction xs generalizing s with
  | nil => exact pure ⟨.nil, hI⟩
  | cons x xs ih =>
    rw [List.mapM_cons]
    refine bind (hf x List.mem_cons_self s hI) fun b s₁ h₁ => ?_
    refine bind (ih (fun y hy => hf y (List.mem_cons_of_mem x hy)) h₁.2) fun bs s₂ h₂ => ?_
    exact pure ⟨.cons h₁.1 h₂.1, h₂.2⟩

/-- **What is yielded is what every run ends with.** -/
theorem ends {tr : List Event} {x : Except Failure α} {t : σ} (h : Yields law prog R s)
    (hrun : Dialogue.Ends law prog.run s tr x t) : ∃ a, x = .ok a ∧ R a t :=
  (h.keeps []).ends hrun

/-- What a program yields is there when it is followed by a failure. -/
theorem ends_throw {f : Failure} {tr : List Event} {x : Except Failure β} {t : σ}
    (h : Yields law prog R s)
    (hrun : Dialogue.Ends law (prog >>= fun _ => (throw f : Program β)).run s tr x t) :
    x = .error f ∧ ∃ a, R a t := by
  have hkeeps : (prog >>= fun _ => (throw f : Program β)).run.Keeps law (fun _ _ => True)
      (fun x _ t => x = .error f ∧ ∃ a, R a t) [] s := by
    refine keeps_program_bind (h.keeps []) (fun a tr t _ ha => ?_) fun e tr t _ he => ?_
    · obtain ⟨b, -, hR⟩ := ha
      exact ⟨trivial, rfl, b, hR⟩
    · obtain ⟨b, hb, -⟩ := he
      cases hb
  exact hkeeps.ends hrun

end Yields

end

/-! ## §3. The directory and the connection. -/

section

variable {sentFolder : String} {found : Directory.Request → Directory.Outcome → Prop} {s : Site}
  {ss : Session}

theorem yields_request {c : Client} {endpoint : String} {params body : Json}
    (hc : 0 ≤ c.maxRetries) (h : Brings found (c.urlOf endpoint) body) :
    Yields (obliging sentFolder found) (c.request endpoint params) (fun b s' => b = body ∧ s' = s)
      s := by
  -- There is at least one attempt, and the first gets the record.
  obtain ⟨left, hleft⟩ : ∃ left, (c.maxRetries + 1).toNat = left + 1 :=
    ⟨c.maxRetries.toNat, by omega⟩
  unfold Client.request
  rw [hleft]
  unfold Client.attempts
  refine Yields.ask_bind fun r s' hr => ?_
  obtain ⟨rfl, hfound⟩ := hr
  obtain ⟨response, rfl, hstatus, hbody⟩ := h _ r rfl hfound
  dsimp only
  rw [if_pos hstatus, hbody]
  exact Yields.pure ⟨rfl, rfl⟩

theorem yields_mailboxAt {c : Client} {email : String} {m : Mailbox}
    (h : Registered found c email m) :
    Yields (obliging sentFolder found) (c.mailboxAt email) (fun b s' => b = m ∧ s' = s) s := by
  obtain ⟨hc, listing, entries, entry, record, hlisting, hentries, hentry, hrecord, hm⟩ := h
  unfold Client.mailboxAt Client.list
  refine Yields.bind (R := fun es s' => es = entries ∧ s' = s) ?_ fun _ _ h => ?_
  · refine Yields.bind (yields_request hc hlisting) fun _ _ h => ?_
    obtain ⟨rfl, rfl⟩ := h
    exact Yields.ofMisuse hentries ⟨rfl, rfl⟩
  · obtain ⟨rfl, rfl⟩ := h
    refine Yields.bind (R := fun e s' => e = some entry ∧ s' = _)
      (Yields.ofMisuse hentry ⟨rfl, rfl⟩) fun _ _ h => ?_
    obtain ⟨rfl, rfl⟩ := h
    unfold Client.mailbox
    refine Yields.bind (yields_request hc hrecord) fun _ _ h => ?_
    obtain ⟨rfl, rfl⟩ := h
    exact Yields.ofMisuse hm ⟨rfl, rfl⟩

theorem yields_connect (e : Endpoint) :
    Yields (obliging sentFolder found) (connect e) (fun _ s' =>
      s' = { s with host := e.host, selected := none } ∧ ∃ h, e.host = .text h) s := by
  unfold connect
  refine Yields.ask_bind fun r s₁ hr => ?_
  obtain ⟨rfl, hhost, capabilities, rfl⟩ := hr
  dsimp only
  split
  · refine Yields.ask_bind fun r s₂ hr => ?_
    obtain ⟨⟨-, rfl⟩, items, ha⟩ := hr
    cases r with
    | error fault => cases ha
    | ok r => exact Yields.pure ⟨rfl, hhost⟩
  · exact Yields.pure ⟨rfl, hhost⟩

theorem yields_login (m : Mailbox) (e : Endpoint) :
    Yields (obliging sentFolder found) (login m e) (fun _ s' => s' = s) s := by
  unfold login
  refine Yields.ask_bind fun r s₁ hr => ?_
  obtain ⟨⟨-, rfl⟩, items, ha⟩ := hr
  cases r with
  | error fault => cases ha
  | ok r => exact Yields.pure rfl

theorem returns_close : Returns (obliging sentFolder found) close (fun _ _ s' => s' = s) ss s := by
  unfold close
  refine Returns.ask_bind fun r s' hr => ?_
  obtain ⟨⟨-, rfl⟩, items, ha⟩ := hr
  refine Returns.update_bind ?_
  cases r with
  | error fault => cases ha
  | ok r => exact Returns.pure rfl

/-- What a session knows of the server that it was just opened on. -/
structure Opened (t : Transport) (ss : Session) (s : Site) : Prop where
  host : ss.host = s.host
  named : ∃ h, s.host = .text h
  selected : ss.selected = none
  sentFolder : ss.sentFolder = none
  length : ss.previewLength = t.previewLength

/-- **A session of its own**: what its body returns is what the operation yields. -/
theorem yields_within {α : Type} {t : Transport} {m : Mailbox} {body : SessionM α}
    {R : α → Site → Prop}
    (h : ∀ ss s', Opened t ss s' → s'.folders = s.folders →
      Returns (obliging sentFolder found) body (fun a _ s'' => R a s'') ss s') :
    Yields (obliging sentFolder found) (t.within m body) R s := by
  unfold Transport.within
  refine Yields.bind (R := fun ss s' => Opened t ss s' ∧ s'.folders = s.folders) ?_
    fun ss s₁ hstart => ⟨fun tr => ?_⟩
  · unfold Transport.start
    refine Yields.bind (yields_connect _) fun _ s₁ hconnect => ?_
    refine Yields.bind (yields_login m _) fun _ s₂ hlogin => ?_
    obtain ⟨rfl, hnamed⟩ := hconnect
    subst hlogin
    exact Yields.pure ⟨⟨rfl, hnamed, rfl, rfl, rfl⟩, rfl⟩
  · -- The session is closed after its body, which leaves what it returned as it is.
    refine keeps_lift_bind (Dialogue.Keeps.mono ((h ss s₁ hstart.1 hstart.2).upholds tr)
      fun last tr₁ s₁ _ hx => ?_)
    obtain ⟨x, ss₁⟩ := last
    obtain ⟨a, rfl, ha⟩ := hx
    refine keeps_lift_bind (Dialogue.Keeps.mono (returns_close.upholds tr₁)
      fun last tr₂ s₂ _ hx => ?_)
    obtain ⟨closed, ss₂⟩ := last
    obtain ⟨_, rfl, rfl⟩ := hx
    exact ⟨trivial, a, rfl, ha⟩

/-! ## §4. The commands of a session. -/

theorem returns_findSentFolder (hhost : ss.host = s.host) (hnamed : ∃ h, s.host = .text h) :
    Returns (obliging sentFolder found) findSentFolder (fun folder ss' s' =>
      folder = sentFolder ∧ ss' = ss ∧ s' = s) ss s where
  upholds tr := by
    refine Upholds.findSentFolder trivial (fun _ _ _ => trivial) ?_ ?_
    · intro r s' name hr hname
      obtain ⟨⟨-, rfl, hsent⟩, -⟩ := hr
      exact ⟨name, rfl, hsent name (hhost ▸ hname), rfl, rfl⟩
    · intro r s' f hr hunfound
      obtain ⟨-, items, folders, ha, hf⟩ := hr
      obtain ⟨h, hh⟩ := hnamed
      -- There is no way left to fail: the answer can be read, and the host has a name.
      rcases hunfound with ⟨reason, rfl⟩ | ⟨items', ha', hnone⟩ | hnone
      · cases ha
      · obtain rfl : items = items' := Option.some.inj (ha.symm.trans ha')
        exact absurd hf (hnone folders)
      · exact absurd (hhost.trans hh) (hnone h)

theorem returns_resolve {t : Transport} (name : String) (h : Opened t ss s) :
    Returns (obliging sentFolder found) (resolve name) (fun folder ss' s' =>
      folder = folderOf sentFolder name ∧ s' = s ∧ ss'.selected = none ∧
        ss'.previewLength = t.previewLength) ss s := by
  unfold resolve folderOf
  dsimp only
  split
  · exact Returns.pure ⟨rfl, rfl, h.selected, h.length⟩
  · split
    · refine Returns.session_bind ?_
      rw [h.sentFolder]
      refine Returns.bind (returns_findSentFolder h.host h.named) fun _ _ _ h' => ?_
      obtain ⟨rfl, rfl, rfl⟩ := h'
      exact Returns.update_bind (Returns.pure ⟨rfl, rfl, h.selected, h.length⟩)
    · exact Returns.pure ⟨rfl, rfl, h.selected, h.length⟩

/-- A session has selected no folder yet, or a folder that the server has selected. -/
def Ready (folder : String) (readonly : Bool) (ss : Session) (s : Site) : Prop :=
  ss.selected = none ∨
    ss.selected = some (folder, readonly) ∧ s.selected = some (folder, readonly)

/-- The folder is selected then, whether a SELECT had to be sent for it or not. -/
theorem returns_enter {folder : String} {readonly : Bool} (h : Ready folder readonly ss s) :
    Returns (obliging sentFolder found) (select folder readonly) (fun _ ss' s' =>
      ss' = { ss with selected := some (folder, readonly) } ∧
        s' = { s with selected := some (folder, readonly) }) ss s := by
  unfold select
  refine Returns.session_bind ?_
  rcases h with hnew | ⟨hss, hs⟩
  · rw [if_neg (by simp [hnew])]
    refine Returns.command_bind fun r s' hr => ?_
    obtain ⟨⟨-, rfl⟩, items, ha⟩ := hr
    refine ⟨items, ha, Returns.update ⟨rfl, ?_⟩⟩
    rw [ha, Option.map_some, unquotedName_quotedName]
  · rw [if_pos (by simp [hss])]
    exact Returns.pure ⟨by rw [← hss], by rw [← hs]⟩

theorem returns_select {folder : String} {readonly : Bool} (hnew : ss.selected = none) :
    Returns (obliging sentFolder found) (select folder readonly) (fun _ ss' s' =>
      s' = { s with selected := some (folder, readonly) } ∧
        ss'.previewLength = ss.previewLength) ss s :=
  (returns_enter (.inl hnew)).mono fun _ _ _ h => ⟨h.2, by rw [h.1]⟩

/-- A search finds every message that meets the criterion, in the order of UIDs. -/
theorem returns_search {folder : String} {readonly : Bool} {c : Criterion}
    (hsel : s.selected = some (folder, readonly)) :
    Returns (obliging sentFolder found) (search folder c) (fun uids ss' s' =>
      ss' = ss ∧ s' = s ∧ uids.Pairwise (· ≤ ·) ∧
        uids.Perm (((s.folders folder).filter (·.meets c)).map (·.uid))) ss s := by
  unfold search
  refine Returns.command_bind fun r s' hr => ?_
  obtain ⟨⟨-, rfl, hfound⟩, items, uids, ha, hu⟩ := hr
  refine ⟨items, ha, ?_⟩
  rw [hu]
  exact Returns.pure
    ⟨rfl, rfl, uidsOf_sorted hu, hfound folder readonly items uids hsel ha hu trivial⟩

/-- What is shown of a message that can be read can be read as well. -/
theorem exists_ofOctets {p : Int} {k : Kept} {f : Fetched} (hread : (shown? p k).isSome)
    (huid : f.uid = k.uid) (hraw : f.raw = k.raw) :
    ∃ m, Message.ofOctets f.uid f.raw f.flags p = .ok m := by
  rw [huid, hraw, ofOctets_map]
  unfold shown? at hread
  cases hm : Message.ofOctets k.uid k.raw [] p with
  | error e => rw [hm] at hread; cases hread
  | ok m => exact ⟨_, rfl⟩

/-- A fetch shows every message that is asked for and in the folder, if all can be read. -/
theorem returns_fetch {folder : String} {readonly : Bool} {uids : List Int}
    (hsel : s.selected = some (folder, readonly))
    (hread : ∀ k ∈ s.folders folder, (shown? ss.previewLength k).isSome) :
    Returns (obliging sentFolder found) (fetch folder uids) (fun ms ss' s' =>
      ss' = ss ∧ s' = s ∧ Excerpt ss.previewLength True (s.folders folder) uids ms) ss s := by
  unfold fetch
  cases uids with
  | nil => exact Returns.pure ⟨rfl, rfl, Excerpt.nil _ _ _⟩
  | cons u us =>
    refine Returns.command_bind fun r s' hr => ?_
    obtain ⟨⟨-, rfl, hshown⟩, items, fetched, ha, hf⟩ := hr
    have hshown := hshown folder readonly items fetched hsel ha hf
    refine ⟨items, ha, Returns.ofExcept_bind hf (Returns.session_bind ?_)⟩
    -- What is shown is a message of the folder, and so it can be read.
    obtain ⟨ms, hms⟩ : ∃ ms, (fetched.mapM fun m =>
        Message.ofOctets m.uid m.raw m.flags ss.previewLength) = .ok ms := by
      refine exists_mapM fun f hmem => ?_
      obtain ⟨k, hk, huid, hraw, -⟩ := hshown.truthful f hmem
      exact exists_ofOctets (hread k hk) huid hraw
    exact Returns.ofExcept_bind hms
      (Returns.pure ⟨rfl, rfl, Excerpt.of_shown hshown (forall₂_of_mapM hms)⟩)

end

/-! ## §5. A server that obliges. -/

/-- Whether a command was carried out, and the answer can be read. -/
def isCarried : Command → Except Fault Response → Bool
  | .search _, r => (accepted? r).any fun items => (uidsOf items).isOk
  | .fetch _, r => (accepted? r).any fun items => (readFetch items).isOk
  | .list, r => (accepted? r).any fun items => (readFolders items).isOk
  | _, r => (accepted? r).isSome

theorem carried_of_isCarried {c : Command} {r : Except Fault Response}
    (h : isCarried c r = true) : Carried c r := by
  have hread {α : Type} {f : List Item → Except WireFault α}
      (h : ((accepted? r).any fun items => (f items).isOk) = true) :
      ∃ items a, accepted? r = some items ∧ f items = .ok a := by
    obtain ⟨items, ha, hf⟩ := (Option.any_eq_true _ _).1 h
    cases hx : f items with
    | error e => rw [hx] at hf; cases hf
    | ok a => exact ⟨items, a, ha, hx⟩
  cases c with
  | search _ | fetch _ | list => exact hread h
  | select _ _ | store _ _ _ | append _ _ _ | startTls | login _ _ | logout =>
    exact Option.isSome_iff_exists.1 h

/-- Whether an answer of the reference server gives what was asked for. -/
def isGranted : Event → Bool
  | ⟨.imap c, r⟩ => isCarried c r
  | ⟨.connect e, _⟩ => match e.host with | .text _ => true | _ => false
  | _ => true

/-- **The reference server obliges** in a run in which it refuses nothing. -/
theorem Reference.ends_obliging {α : Type} (x : Reference) {d : Dialogue α} {s : Site}
    (h : (d.trace x.answer s).all isGranted = true) :
    Dialogue.Ends (obliging x.sent fun _ r => r = Simulation.World.found x.record) d s
      (d.trace x.answer s) (d.run x.answer s).1 (d.run x.answer s).2 := by
  induction d generalizing s with
  | pure a => exact .here _ s
  | ask c next ih =>
    rw [Dialogue.trace, List.all_cons, Bool.and_eq_true] at h
    -- The law is that of the server, whatever its classifier says; the check adds the rest.
    have hlaw := Regime.law_judges (fun _ _ => True) (fun _ _ _ => trivial) (x.lawful c s)
    refine .step ⟨hlaw, ?_⟩ (ih _ h.2)
    cases c with
    | imap c => exact carried_of_isCarried h.1
    | connect e =>
      have hhost := h.1
      unfold isGranted at hhost
      dsimp only at hhost
      split at hhost
      next name hname => exact ⟨⟨name, hname⟩, [], rfl⟩
      next => cases hhost
    | get _ => rfl
    | scanId | clock | stamp | draw | sleep _ | classify _ | smtp _ => trivial

end Mailroom.Imap
