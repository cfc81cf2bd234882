import Mailroom.Proofs.Scan.Account
/-!
  Mailroom.Proofs.Scan.Conduct
  ────────────────────────────────
  **WHAT THE SCAN OF AN ACCOUNT MAY ASK.**

  The outside world is bound by nothing here: servers may say what they like.  Still
  each question of a scan follows from what it was told before, and that is its
  `conduct`:

      requests     — go to the place of one mailbox in the directory, and come before
                     any connection
      connections  — go to the server that the directory described, and there is one
      LIST         — is sent once
      SEARCH       — is sent in a folder selected for reading only
      FETCH        — is sent before any judgement, first in the inbox and later in the
                     folder to which LIST led
      STORE        — sets a flag that the judgement of a task calls for, in the folder
                     it is meant for

  An answer that can be read, or that fails in a way to be expected, is `Legible`; a
  failure is `Excused` if it ends the account only or some answer was not legible.
-/
namespace Mailroom.Scan

open Mailroom.Imap Mailroom.Mail Mailroom.Reply Mailroom.Simulation

/-! ## §1. Answers that are to be expected. -/

/-- What was accepted on a connection can be read.  A search must find fewer than
`2 ^ 63` messages, as pages are counted with numbers of 64 bits. -/
def Readable (previewLength : Int) (r : Except Imap.Fault Response) : Imap.Command → Prop
  | .search _ => ∀ items, accepted? r = some items →
      ∃ uids, uidsOf items = .ok uids ∧ uids.length < 2 ^ 63
  | .fetch _ => (accepted? r).isSome → (messagesOf previewLength r).isSome
  | .list => ∀ items, accepted? r = some items → ∃ folders, readFolders items = .ok folders
  | _ => True

/-- An answer that can be read, or a failure of a kind that is to be expected. -/
def Legible (previewLength : Int) : Event → Prop
  | ⟨.get _, .response r⟩ => ∀ body, r.status < 400 → r.body = some body →
      ∃ m, Directory.Mailbox.ofJson body = .ok m
  | ⟨.get _, .unreachable _⟩ => True
  | ⟨.get _, .refused _⟩ | ⟨.get _, .foreign _⟩ => False
  | ⟨.connect ep, r⟩ => (∃ h, ep.host = .text h) ∧ ∀ reason, r ≠ .error (.foreign reason)
  | ⟨.imap c, r⟩ => (∀ reason, r ≠ .error (.foreign reason)) ∧ Readable previewLength r c
  | ⟨.classify _, r⟩ => ∀ blocks, r = .ok blocks → ∃ c, Category.ofBlocks blocks = .ok c
  | _ => True

/-- A failure that ends one account only, or comes from an answer that could not be
read. -/
def Excused (previewLength : Int) (f : Failure) (tr : List Event) : Prop :=
  f.endsAccount = true ∨ ∃ ev ∈ tr, ¬ Legible previewLength ev

section Excused

variable {p : Int} {f : Failure} {tr tr' : List Event}

theorem Excused.mono (h : Excused p f tr) (hle : tr <+: tr') : Excused p f tr' := by
  refine h.imp_right fun h => ?_
  obtain ⟨ev, hev, hbad⟩ := h
  exact ⟨ev, hle.mem hev, hbad⟩

theorem Excused.last {ev : Event} (h : ¬ Legible p ev) : Excused p f (tr ++ [ev]) :=
  .inr ⟨ev, by simp, h⟩

theorem excused_of_outcome {operation : Operation} {folder : Option String} {c : Imap.Command}
    {r : Except Imap.Fault Response} (h : outcome operation folder r = .error f) :
    Excused p f (tr ++ [⟨.imap c, r⟩]) := by
  by_cases hr : ∀ reason, r ≠ .error (.foreign reason)
  · obtain ⟨e, rfl⟩ := exists_transport_of_outcome h hr
    exact .inl rfl
  · exact .last fun hlegible => hr hlegible.1

theorem Spoils.excused {req : Directory.Request} {r : Directory.Outcome} (h : Spoils r f)
    (hev : (⟨.get req, r⟩ : Event) ∈ tr) : Excused p f tr := by
  cases r with
  | response r =>
    obtain ⟨-, e, rfl⟩ := h
    exact .inl rfl
  | unreachable reason =>
    obtain ⟨e, rfl⟩ := h
    exact .inl rfl
  | refused reason | foreign reason => exact .inr ⟨_, hev, not_false⟩

end Excused

/-! ## §2. What a run was told of accounts and folders. -/

/-- The directory described a mailbox. -/
def Described (tr : List Event) (m : Directory.Mailbox) : Prop :=
  ∃ req r body, (⟨.get req, .response r⟩ : Event) ∈ tr ∧ r.body = some body ∧
    Directory.Mailbox.ofJson body = .ok m

/-- A connection was opened. -/
def Connected (tr : List Event) : Prop := ∃ ev ∈ tr, ∃ ep, ev.1 = .connect ep

/-- The folders were listed. -/
def Listed (tr : List Event) : Prop := ∃ ev ∈ tr, ev.1 = .imap .list

/-- LIST led to the sent folder, on the host of a connection. -/
def Resolves (tr : List Event) (name : String) : Prop :=
  ∃ ep r r', (⟨.connect ep, r⟩ : Event) ∈ tr ∧ (⟨.imap .list, r'⟩ : Event) ∈ tr ∧
    sentFolderOf ep.host r' = .ok name

/-- The folder selected after an event, and whether only for reading. -/
def selectionAfter (before : Option (String × Bool)) : Event → Option (String × Bool)
  | ⟨.imap (.select quoted readonly), r⟩ =>
    (accepted? r).map fun _ => (World.unquotedName quoted, readonly)
  | ⟨.connect _, _⟩ => none
  | _ => before

/-- The folder selected after some events. -/
def selection (tr : List Event) : Option (String × Bool) := tr.foldl selectionAfter none

theorem selection_concat (tr : List Event) (ev : Event) :
    selection (tr ++ [ev]) = selectionAfter (selection tr) ev := by
  simp [selection, List.foldl_append]

theorem not_exists_concat {P : Event → Prop} {tr : List Event} {ev : Event}
    (h : ¬ ∃ x ∈ tr, P x) (hev : ¬ P ev) : ¬ ∃ x ∈ tr ++ [ev], P x := by
  intro hex
  obtain ⟨x, hx, hp⟩ := hex
  rcases List.mem_append.1 hx with hx | hx
  · exact h ⟨x, hx, hp⟩
  · exact hev (List.mem_singleton.1 hx ▸ hp)

theorem not_connected_concat {tr : List Event} {ev : Event} (h : ¬ Connected tr)
    (hev : ∀ ep, ev.1 ≠ .connect ep) : ¬ Connected (tr ++ [ev]) :=
  not_exists_concat h (not_exists.2 hev)

theorem not_listed_concat {tr : List Event} {ev : Event} (h : ¬ Listed tr)
    (hev : ev.1 ≠ .imap .list) : ¬ Listed (tr ++ [ev]) :=
  not_exists_concat h hev

theorem Described.mono {tr tr' : List Event} {m : Directory.Mailbox} (h : Described tr m)
    (hle : tr <+: tr') : Described tr' m := by
  obtain ⟨req, r, body, hev, h⟩ := h
  exact ⟨req, r, body, hle.mem hev, h⟩

theorem Resolves.mono {tr tr' : List Event} {name : String} (h : Resolves tr name)
    (hle : tr <+: tr') : Resolves tr' name := by
  obtain ⟨ep, r, r', hc, hl, h⟩ := h
  exact ⟨ep, r, r', hle.mem hc, hle.mem hl, h⟩

/-- A run went on, was shown some pages and heard some judgements. -/
structure Onward (previewLength : Int) (tr tr' : List Event) (shown : List (List Message))
    (heard : List (Question × Category)) : Prop where
  later : tr <+: tr'
  pages : pages previewLength tr' = pages previewLength tr ++ shown
  judgements : judgements tr' = judgements tr ++ heard

theorem Onward.refl (p : Int) (tr : List Event) : Onward p tr tr [] [] :=
  ⟨List.prefix_rfl, by simp, by simp⟩

theorem Onward.trans {p : Int} {tr tr₁ tr₂ : List Event} {shown₁ shown₂ : List (List Message)}
    {heard₁ heard₂ : List (Question × Category)} (h₁ : Onward p tr tr₁ shown₁ heard₁)
    (h₂ : Onward p tr₁ tr₂ shown₂ heard₂) :
    Onward p tr tr₂ (shown₁ ++ shown₂) (heard₁ ++ heard₂) where
  later := h₁.later.trans h₂.later
  pages := by rw [h₂.pages, h₁.pages, List.append_assoc]
  judgements := by rw [h₂.judgements, h₁.judgements, List.append_assoc]

theorem Onward.concat (p : Int) (tr : List Event) (ev : Event) :
    Onward p tr (tr ++ [ev]) (pageIn p ev).toList (judgementIn ev).toList where
  later := List.prefix_append _ _
  pages := by
    cases h : pageIn p ev <;> simp [Scan.pages, h]
  judgements := by
    cases h : judgementIn ev <;> simp [Scan.judgements, h]

theorem Onward.silent {p : Int} {tr : List Event} {c : Mailroom.Command} (hc : Silent c)
    (r : c.Answer) : Onward p tr (tr ++ [⟨c, r⟩]) [] [] := by
  have hon := Onward.concat p tr ⟨c, r⟩
  have hnone : pageIn p ⟨c, r⟩ = none ∧ judgementIn ⟨c, r⟩ = none := by
    rcases c with _ | _ | _ | _ | _ | _ | _ | _ | c | _
    case imap => cases c <;> first | exact ⟨rfl, rfl⟩ | cases hc
    case classify => cases hc
    all_goals exact ⟨rfl, rfl⟩
  rwa [hnone.1, hnone.2] at hon

/-! ## §3. The rule. -/

/-- The judgement of a task calls for a write. -/
def Called (e : Engine) (tr : List Event) (w : Write) : Prop :=
  ∃ sent t c, Resolves tr sent ∧ t ∈ tasksIn (pages e.transport.previewLength tr) ∧
    (t.question e.classifier, c) ∈ judgements tr ∧ w ∈ t.writes sent c

/-- A page of a folder may be asked for: the first one of the inbox, later ones of the
folder to which LIST led, and none after a judgement. -/
def Paging (e : Engine) (folder : String) (tr : List Event) : Prop :=
  judgements tr = [] ∧ (pages e.transport.previewLength tr = [] ∧ folder = inbox ∨
    pages e.transport.previewLength tr ≠ [] ∧ Resolves tr folder)

/-- What may be sent on a connection after some events. -/
def onConnection (e : Engine) (tr : List Event) : Imap.Command → Prop
  | .startTls | .logout | .select _ _ => True
  | .list => ¬ Listed tr
  | .login user password => ∃ m, Described tr m ∧ user = m.imap.user ∧ password = m.imap.password
  | .search _ => ∃ folder, selection tr = some (folder, true)
  | .fetch _ => ∃ folder, selection tr = some (folder, true) ∧ Paging e folder tr
  | .store uid change flag => change = .add ∧
      ∃ folder, selection tr = some (folder, false) ∧ Called e tr ⟨folder, uid, flag⟩
  | .append _ _ _ => False

/-- **What the scan of an account may ask** after some events, given the number of its
mailbox in the directory. -/
def conduct (e : Engine) (id : Int) : Rule := fun tr c => match c with
  | .get r => ¬ Connected tr ∧ r.url = e.directory.urlOf s!"mailboxes/{id}"
  | .draw | .sleep _ => ¬ Connected tr
  | .connect ep => ¬ Connected tr ∧ ∃ m, Described tr m ∧ ep = e.transport.endpoint m
  | .imap c => onConnection e tr c
  | .classify q => ∃ t ∈ tasksIn (pages e.transport.previewLength tr),
      q = t.question e.classifier
  | .scanId | .clock | .stamp | .smtp _ => False

/-- A request neither connects nor lists. -/
theorem Requests.unopened {url : String} {tr : List Event} {c : Mailroom.Command} {r : c.Answer}
    (h : Requests url c) (hnew : ¬ Connected tr ∧ ¬ Listed tr) :
    ¬ Connected (tr ++ [⟨c, r⟩]) ∧ ¬ Listed (tr ++ [⟨c, r⟩]) := by
  refine ⟨not_connected_concat hnew.1 fun ep heq => ?_, not_listed_concat hnew.2 fun heq => ?_⟩
  all_goals
    obtain rfl : c = _ := heq
    exact h

/-- The requests for the record of the mailbox are among it. -/
theorem Requests.conduct {e : Engine} {id : Int} {tr : List Event} {c : Mailroom.Command}
    (h : Requests (e.directory.urlOf s!"mailboxes/{id}") c) (hnew : ¬ Connected tr) :
    conduct e id tr c := by
  cases c <;> first | exact hnew | exact ⟨hnew, h⟩ | cases h

end Mailroom.Scan
