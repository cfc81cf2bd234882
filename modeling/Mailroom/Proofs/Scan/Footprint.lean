import Mailroom.Proofs.Imap.Estate
import Mailroom.Proofs.Scan.Isolation
/-!
  Mailroom.Proofs.Scan.Footprint
  ────────────────────────────────
  **WHAT A SCAN CHANGES.**

  Servers and the classifier may answer anything, and a scan may fail anywhere.  All
  that it changes are flags that it adds to messages it was told about:

      a reply    — that was fetched from the inbox without the marker and was judged
      a partner  — in the sent folder to which LIST led, with which the matching
                   paired such a reply

  No STORE of a visit goes to another account than that of its mailbox, and before the
  first judgement there is none.

      scan_footprint — at every moment of every scan
-/
namespace Mailroom.Scan

open Mailroom.Imap Mailroom.Mail Mailroom.Reply Mailroom.Thread Mailroom.Simulation

/-! ## §1. What was fetched. -/

/-- A message was fetched from a folder. -/
def Fetched (previewLength : Int) (tr : List Event) (folder : String) (m : Message) : Prop :=
  ∃ before uids r after readonly page, tr = before ++ ⟨.imap (.fetch uids), r⟩ :: after ∧
    selection before = some (folder, readonly) ∧ messagesOf previewLength r = some page ∧ m ∈ page

section

variable {e : Engine} {id : Int} {p : Int} {tr tr' : List Event} {folder : String} {m : Message}

theorem Fetched.mono (h : Fetched p tr folder m) (hle : tr <+: tr') : Fetched p tr' folder m := by
  obtain ⟨before, uids, r, after, readonly, page, rfl, h⟩ := h
  obtain ⟨rest, rfl⟩ := hle
  exact ⟨before, uids, r, after ++ rest, readonly, page, by simp, h⟩

theorem exists_fetch_of_pageIn {ev : Event} {page : List Message} (h : pageIn p ev = some page) :
    ∃ uids r, ev = ⟨.imap (.fetch uids), r⟩ ∧ messagesOf p r = some page := by
  obtain ⟨c, r⟩ := ev
  rcases c with _ | _ | _ | _ | _ | _ | _ | _ | c | _
  case imap =>
    cases c with
    | fetch uids => exact ⟨uids, r, rfl, h⟩
    | _ => cases h
  all_goals cases h

/-- The first page was fetched from the inbox, and the others from the folder to which
LIST led. -/
theorem fetched_of_pages (h : Obeyed (conduct e id) tr) {i : Nat} {page : List Message}
    (hpage : (pages e.transport.previewLength tr)[i]? = some page) (hm : m ∈ page) :
    ∃ folder, Fetched e.transport.previewLength tr folder m ∧ (i = 0 → folder = inbox) ∧
      (i ≠ 0 → Resolves tr folder) := by
  induction tr using List.reverseRecOn with
  | nil => cases hpage
  | append_singleton tr ev ih =>
    obtain ⟨htr, hev⟩ := obeyed_concat.1 h
    have hle : tr <+: tr ++ [ev] := List.prefix_append _ _
    rw [(Onward.concat e.transport.previewLength tr ev).pages, List.getElem?_append] at hpage
    split at hpage
    · obtain ⟨folder, hfetched, hfirst, hlater⟩ := ih htr hpage
      exact ⟨folder, hfetched.mono hle, hfirst, fun hi => (hlater hi).mono hle⟩
    next hi =>
      -- The page is the new one: the rule says from where it may be fetched.
      obtain ⟨hzero, hnew⟩ : i - (pages e.transport.previewLength tr).length = 0 ∧
          pageIn e.transport.previewLength ev = some page := by
        cases hp : pageIn e.transport.previewLength ev with
        | none => simp [hp] at hpage
        | some new => simpa [hp, List.getElem?_singleton] using hpage
      obtain ⟨uids, r, rfl, hr⟩ := exists_fetch_of_pageIn hnew
      obtain ⟨folder, hsel, -, hfolder⟩ := hev
      refine ⟨folder, ⟨tr, uids, r, [], true, page, rfl, hsel, hr, hm⟩, fun h0 => ?_, fun h0 => ?_⟩
      · refine (hfolder.resolve_right fun hlater => hlater.1 ?_).2
        exact List.length_eq_zero_iff.1 (by omega)
      · refine (hfolder.resolve_left fun hfirst => h0 ?_).2.mono hle
        have hlength := List.length_eq_zero_iff.2 hfirst.1
        omega

/-- LIST leads to one folder. -/
theorem Resolves.unique (h : Obeyed (conduct e id) tr) {n n' : String} (hn : Resolves tr n)
    (hn' : Resolves tr n') : n = n' := by
  obtain ⟨ep, r, l, hc, hl, hname⟩ := hn
  obtain ⟨ep', r', l', hc', hl', hname'⟩ := hn'
  have hconnect := h.unique (K := fun c => ∃ ep, c = .connect ep)
    (fun tr c hrule hK ev hev hK' => by
      obtain ⟨ep, rfl⟩ := hK
      obtain ⟨ep', hep'⟩ := hK'
      exact hrule.1 ⟨ev, hev, ep', hep'⟩) hc hc' ⟨ep, rfl⟩ ⟨ep', rfl⟩
  have hlist := h.unique (K := fun c => c = .imap .list)
    (fun tr c hrule hK ev hev hK' => by
      subst hK
      exact hrule ⟨ev, hev, hK'⟩) hl hl' rfl rfl
  cases hconnect
  cases hlist
  exact Except.ok.inj (hname.symm.trans hname')

/-! ## §2. What judgements call for. -/

/-- A reply was fetched from the inbox without the marker, and was judged. -/
structure Judged (e : Engine) (tr : List Event) (c : Category) (m : Message) : Prop where
  fetched : Fetched e.transport.previewLength tr inbox m
  unmarked : classifiedFlag ∉ m.flags
  judgement : (e.classifier.question m.subject m.preview, c) ∈ judgements tr

/-- The messages of a UID in a folder are meant to get the flags of a category: those
of a judged reply, or of the sent message with which it was paired. -/
inductive Meant (e : Engine) (tr : List Event) (c : Category) : String → Int → Prop
  | reply {m : Message} (judged : Judged e tr c m) : Meant e tr c inbox m.uid
  | partner {m n : Message} {sent : String} (judged : Judged e tr c m) (resolved : Resolves tr sent)
      (fetched : Fetched e.transport.previewLength tr sent n)
      (paired : ⟨m.uid, n.uid⟩ ∈ (matchingIn (pages e.transport.previewLength tr)).found) :
      Meant e tr c sent n.uid

theorem Meant.place {c : Category} {uid : Int} (h : Meant e tr c folder uid) :
    folder = inbox ∨ Resolves tr folder := by
  cases h with
  | reply judged => exact .inl rfl
  | partner judged resolved fetched paired => exact .inr resolved

theorem mem_of_lastWith? {uid : Int} {ms : List Message} (h : lastWith? uid ms = some m) :
    m ∈ ms ∧ m.uid = uid :=
  ⟨List.mem_reverse.1 (List.mem_of_find?_eq_some h), by simpa using List.find?_some h⟩

/-- A task has a reply, and a pair if it answers a sent message. -/
theorem mem_of_mem_tasksOf {replies : List Message} {μ : Matching} {t : Task}
    (h : t ∈ tasksOf replies μ) :
    t.reply ∈ replies ∧ ∀ uid ∈ t.answers, ⟨t.reply.uid, uid⟩ ∈ μ.found := by
  unfold tasksOf at h
  rcases List.mem_append.1 h with h | h
  · obtain ⟨x, hx, h⟩ := List.mem_filterMap.1 h
    obtain ⟨m, hm, rfl⟩ := Option.map_eq_some_iff.1 h
    obtain ⟨hm, hu⟩ := mem_of_lastWith? hm
    refine ⟨hm, fun uid huid => ?_⟩
    cases huid
    rwa [show (⟨m.uid, x.outbound⟩ : Match) = x by rw [hu]]
  · obtain ⟨uid, -, h⟩ := List.mem_filterMap.1 h
    obtain ⟨m, hm, rfl⟩ := Option.map_eq_some_iff.1 h
    exact ⟨(mem_of_lastWith? hm).1, nofun⟩

theorem exists_page_of_mem {shown : List (List Message)} {i : Nat} (h : m ∈ shown.getD i []) :
    ∃ page, shown[i]? = some page ∧ m ∈ page := by
  rw [List.getD_eq_getElem?_getD] at h
  cases hi : shown[i]? with
  | none => simp [hi] at h
  | some page => exact ⟨page, rfl, by simpa [hi] using h⟩

/-- What is called for is meant. -/
theorem Called.meant (h : Obeyed (conduct e id) tr) {w : Write} (hw : Called e tr w) :
    ∃ c, w.flag ∈ tags c ∧ Meant e tr c w.folder w.uid := by
  obtain ⟨folder, uid, flag⟩ := w
  obtain ⟨sent, t, c, hsent, ht, hc, hw⟩ := hw
  obtain ⟨hflag, hplace⟩ := mem_writesOf.1 hw
  obtain ⟨hreply, hpair⟩ := mem_of_mem_tasksOf ht
  obtain ⟨hshown, hunmarked⟩ := List.mem_filter.1 hreply
  obtain ⟨page, hi, hm⟩ := exists_page_of_mem hshown
  obtain ⟨folder, hfetched, hinbox, -⟩ := fetched_of_pages h hi hm
  obtain rfl := hinbox rfl
  have hjudged : Judged e tr c t.reply :=
    ⟨hfetched, by simpa [Filter.Expr.holds, unclassified] using hunmarked, hc⟩
  refine ⟨c, hflag, ?_⟩
  rcases hplace with hplace | hplace
  · cases hplace
    exact .reply hjudged
  · -- The sent message was shown on the second page, which is one of the same folder.
    obtain ⟨uid, huid, hplace⟩ := Option.map_eq_some_iff.1 hplace
    cases hplace
    obtain ⟨m, -, n, hn, hpaired⟩ := mem_found.1 (hpair uid huid)
    obtain rfl : uid = n.uid := congrArg Match.outbound hpaired
    obtain ⟨page, hi, hn⟩ := exists_page_of_mem (List.mem_of_find?_eq_some hn)
    obtain ⟨folder, hfetched, -, hresolves⟩ := fetched_of_pages h hi hn
    obtain rfl := hsent.unique h (hresolves nofun)
    exact .partner hjudged hsent hfetched (hpair n.uid huid)

/-- What is called for stays called for, as no page is shown after a judgement. -/
theorem Called.concat {w : Write} (h : Called e tr w) {c : Mailroom.Command}
    (hc : conduct e id tr c) (r : c.Answer) : Called e (tr ++ [⟨c, r⟩]) w := by
  have hon := Onward.concat e.transport.previewLength tr ⟨c, r⟩
  cases hp : pageIn e.transport.previewLength ⟨c, r⟩ with
  | none =>
    rw [hp] at hon
    exact h.onward hon
  | some page =>
    obtain ⟨uids, r', heq, -⟩ := exists_fetch_of_pageIn hp
    cases heq
    obtain ⟨-, -, hunjudged, -⟩ := hc
    obtain ⟨sent, t, c, -, -, hmem, -⟩ := h
    rw [hunjudged] at hmem
    cases hmem

end

/-! ## §3. What a visit changes. -/

section

variable {ι : Type} {e : Engine} {owner : Json → Option ι} {id : Int} {s₀ s s' : Estate ι}
  {tr tr' : List Event} {written : ι → List Write}

/-- The mailbox that the directory described belongs to an account. -/
def Entered (owner : Json → Option ι) (tr : List Event) (i : ι) : Prop :=
  ∃ m, Described tr m ∧ owner m.imap.user = some i

theorem Entered.mono {i : ι} (h : Entered owner tr i) (hle : tr <+: tr') : Entered owner tr' i := by
  obtain ⟨m, hm, howner⟩ := h
  exact ⟨m, hm.mono hle, howner⟩

/-- Where a visit stands that found the estate in `s₀`: the writes that took effect in
each account were called for, and the connection is what the visit takes it for. -/
structure Visiting (e : Engine) (owner : Json → Option ι) (s₀ : Estate ι) (tr : List Event)
    (s : Estate ι) (written : ι → List Write) : Prop where
  folders : ∀ i, s.folders i = (s₀.folders i).writeAll (written i)
  called : ∀ i, ∀ w ∈ written i, Called e tr w ∧ Entered owner tr i
  user : Connected tr → ∀ i, s.user = some i → Entered owner tr i
  selected : ∀ n readonly, selection tr = some (n, readonly) → s.selected = some n

/-- What a visit leaves behind, in the accounts, folders and messages of an estate. -/
structure Footprint (e : Engine) (owner : Json → Option ι) (v : Visit (Estate ι)) : Prop where
  conduct : Obeyed (conduct e v.entry.id) v.events
  accounts : ∀ i, ¬ Entered owner v.events i → v.after.folders i = v.before.folders i
  folders : ∀ i n, n ≠ inbox → ¬ Resolves v.events n →
    v.after.folders i n = v.before.folders i n
  gains : ∀ i n, ∃ gained : Int → Finset String,
    v.after.folders i n = (v.before.folders i n).map (fun k => k.add (gained k.uid)) ∧
    ∀ uid, ∀ flag ∈ gained uid, ∃ c, flag ∈ tags c ∧ Meant e v.events c n uid
  idle : judgements v.events = [] → v.after.folders = v.before.folders

theorem Visiting.footprint {v : Visit (Estate ι)}
    (h : Visiting e owner v.before v.events v.after written)
    (hO : Obeyed (Scan.conduct e v.entry.id) v.events) : Footprint e owner v where
  conduct := hO
  accounts i hi := by
    have hnone : written i = [] :=
      List.eq_nil_iff_forall_not_mem.2 fun w hw => hi (h.called i w hw).2
    rw [h.folders i, hnone, Folders.writeAll_nil]
  folders i n hinbox hresolves := by
    rw [h.folders i, Folders.writeAll_apply]
    refine List.map_id'' (fun k => ?_) _
    have hnone : flagsSet (written i) n k.uid = ∅ := by
      refine Finset.eq_empty_of_forall_notMem fun flag hflag => ?_
      obtain ⟨c, -, hmeant⟩ := (h.called i _ (mem_flagsSet.1 hflag)).1.meant hO
      exact hmeant.place.elim hinbox hresolves
    rw [hnone, Kept.add_empty]
  gains i n := by
    refine ⟨flagsSet (written i) n, by rw [h.folders i, Folders.writeAll_apply], ?_⟩
    exact fun uid flag hflag => (h.called i _ (mem_flagsSet.1 hflag)).1.meant hO
  idle hunjudged := by
    funext i
    have hnone : written i = [] := by
      refine List.eq_nil_iff_forall_not_mem.2 fun w hw => ?_
      obtain ⟨⟨sent, t, c, -, -, hmem, -⟩, -⟩ := h.called i w hw
      rw [hunjudged] at hmem
      cases hmem
    rw [h.folders i, hnone, Folders.writeAll_nil]

/-- A command that changes no messages. -/
theorem Visiting.concat (h : Visiting e owner s₀ tr s written) {c : Mailroom.Command}
    {r : c.Answer} (hc : conduct e id tr c) (hfolders : s'.folders = s.folders)
    (huser : Connected (tr ++ [⟨c, r⟩]) → ∀ i, s'.user = some i →
      Entered owner (tr ++ [⟨c, r⟩]) i)
    (hselected : ∀ n readonly, selection (tr ++ [⟨c, r⟩]) = some (n, readonly) →
      s'.selected = some n) : Visiting e owner s₀ (tr ++ [⟨c, r⟩]) s' written where
  folders i := by rw [hfolders, h.folders i]
  called i w hw := by
    obtain ⟨hw, hi⟩ := h.called i w hw
    exact ⟨hw.concat hc r, hi.mono (List.prefix_append _ _)⟩
  user := huser
  selected := hselected

/-- No other account is entered without a new connection. -/
theorem Visiting.entered (h : Visiting e owner s₀ tr s written) {ev : Event}
    (hconnect : ∀ ep, ev.1 ≠ .connect ep) (hconnected : Connected (tr ++ [ev])) {i : ι}
    (hi : s.user = some i) : Entered owner (tr ++ [ev]) i := by
  have hbefore : Connected tr := not_imp_not.1 (not_connected_concat · hconnect) hconnected
  exact (h.user hbefore i hi).mono (List.prefix_append _ _)

/-- A command that leaves the estate as it is. -/
theorem Visiting.stay (h : Visiting e owner s₀ tr s written) {c : Mailroom.Command}
    {r : c.Answer} (hc : conduct e id tr c) (hconnect : ∀ ep, c ≠ .connect ep)
    (hselection : selectionAfter (selection tr) ⟨c, r⟩ = selection tr) :
    Visiting e owner s₀ (tr ++ [⟨c, r⟩]) s written := by
  refine h.concat hc rfl (fun hconnected i hi => h.entered hconnect hconnected hi) ?_
  intro n readonly hsel
  rw [selection_concat, hselection] at hsel
  exact h.selected n readonly hsel

variable [DecidableEq ι]

/-- A write that is called for goes to the folder that it is meant for. -/
theorem Visiting.write (h : Visiting e owner s₀ tr s written) {folder flag : String} {uid : Int}
    {r : Except Imap.Fault Response} (hc : conduct e id tr (.imap (.store uid .add flag)))
    (hsel : selection tr = some (folder, false)) (hw : Called e tr ⟨folder, uid, flag⟩) {i : ι}
    (hi : s.user = some i) :
    Visiting e owner s₀ (tr ++ [⟨.imap (.store uid .add flag), r⟩]) (s.flag uid .add flag)
      (Function.update written i (written i ++ [⟨folder, uid, flag⟩])) := by
  have hstay := h.stay (r := r) hc nofun rfl
  have hconnected : Connected tr := by
    obtain ⟨sent, t, c, ⟨ep, r, r', hev, -, -⟩, -⟩ := hw
    exact ⟨_, hev, ep, rfl⟩
  have hflag : s.flag uid .add flag = { s with
      folders := Function.update s.folders i ((s.folders i).write ⟨folder, uid, flag⟩) } := by
    simp only [Estate.flag, hi, h.selected _ _ hsel]
    rfl
  rw [hflag]
  refine ⟨fun j => ?_, fun j w hmem => ?_, hstay.user, hstay.selected⟩
  · by_cases hj : j = i
    · subst hj
      simp only [Function.update_self, Folders.writeAll_append, ← h.folders j]
      rfl
    · simp only [Function.update_of_ne hj, h.folders j]
  · by_cases hj : j = i
    · subst hj
      rw [Function.update_self] at hmem
      rcases List.mem_append.1 hmem with hmem | hmem
      · exact hstay.called j w hmem
      · rw [List.mem_singleton.1 hmem]
        exact ⟨hw.concat hc r, (h.user hconnected j hi).mono (List.prefix_append _ _)⟩
    · rw [Function.update_of_ne hj] at hmem
      exact hstay.called j w hmem

/-- **What one step of a visit can do**: nothing to messages, or a write that is called
for. -/
theorem Visiting.step (h : Visiting e owner s₀ tr s written) {c : Mailroom.Command}
    {r : c.Answer} (hc : conduct e id tr c) (hr : Estate.law owner s c r s') :
    ∃ written', Visiting e owner s₀ (tr ++ [⟨c, r⟩]) s' written' := by
  match c, r, hc, hr with
  | .get _, _, hc, hr | .draw, _, hc, hr | .sleep _, _, hc, hr | .classify _, _, hc, hr =>
    cases hr
    exact ⟨written, h.stay hc nofun rfl⟩
  | .connect ep, r, hc, hr =>
    cases hr
    refine ⟨written, h.concat hc rfl (fun _ i hi => by cases hi) fun n readonly hsel => ?_⟩
    rw [selection_concat] at hsel
    cases hsel
  | .imap .startTls, _, hc, hr | .imap .logout, _, hc, hr | .imap .list, _, hc, hr
  | .imap (.search _), _, hc, hr | .imap (.fetch _), _, hc, hr =>
    cases hr
    exact ⟨written, h.stay hc nofun rfl⟩
  | .imap (.select quoted readonly), r, hc, hr =>
    obtain ⟨hfolders, huser, hselected⟩ := hr
    refine ⟨written, h.concat hc hfolders (fun hconnected i hi => ?_) fun n readonly' hsel => ?_⟩
    · exact h.entered (fun ep heq => by cases heq) hconnected (huser ▸ hi)
    · rw [selection_concat] at hsel
      obtain ⟨items, ha, heq⟩ := Option.map_eq_some_iff.1 hsel
      cases heq
      exact hselected (by rw [ha]; rfl)
  | .imap (.login user password), r, hc, hr =>
    obtain ⟨hfolders, hselected, huser⟩ := hr
    have hstay := h.stay (r := r) hc nofun rfl
    refine ⟨written, h.concat hc hfolders (fun hconnected i hi => ?_) ?_⟩
    · rcases huser with huser | huser
      · exact hstay.user hconnected i (huser ▸ hi)
      · obtain ⟨m, hm, rfl, -⟩ := hc
        exact ⟨m, hm.mono (List.prefix_append _ _), huser ▸ hi⟩
    · rw [hselected]
      exact hstay.selected
  | .imap (.store uid change flag), r, hc, hr =>
    have hrule := hc
    obtain ⟨rfl, folder, hsel, hw⟩ := hrule
    rcases hr with rfl | rfl
    · exact ⟨written, h.stay hc nofun rfl⟩
    · cases hu : s.user with
      | none =>
        have hflag : s.flag uid .add flag = s := by simp only [Estate.flag, hu]
        rw [hflag]
        exact ⟨written, h.stay hc nofun rfl⟩
      | some i => exact ⟨_, h.write hc hsel hw hu⟩

/-- A visit leaves its footprint, wherever it stands. -/
theorem footprint_of_reaches {v : Visit (Estate ι)}
    (hrun : Dialogue.Reaches (Estate.law owner) (e.scanEntry v.entry) v.before v.events v.rest
      v.after) : Footprint e owner v := by
  have hstart : ∃ written, Visiting e owner v.before [] v.before written :=
    ⟨fun _ => [], fun _ => rfl, by simp, by simp [Connected], nofun⟩
  obtain ⟨written, hvisiting⟩ := scanEntry_preserves
    (I := fun tr s => ∃ written, Visiting e owner v.before tr s written) hrun hstart
    fun tr s c r s' hc hr h => by
      obtain ⟨written, h⟩ := h
      exact h.step hc hr
  exact hvisiting.footprint (scanEntry_obeys hrun)

/-! ## §4. What a scan changes. -/

/-- **The footprint of a scan.**  Every moment of a scan comes after a round of visits,
which lead from the first state of the estate to the present one, and each visit left
its footprint only. -/
theorem scan_footprint (e : Engine) (owner : Json → Option ι) (address : Option String)
    {d : Dialogue (Except Failure Report)}
    (hrun : Dialogue.Reaches (Estate.law owner) (e.run address).run s tr d s') :
    ∃ opened vs closed, tr = opened ++ vs.flatMap Visit.events ++ closed ∧
      Rounds (Estate.law owner) e s vs s' ∧ ∀ v ∈ vs, Footprint e owner v := by
  have hopening : (e.opening address).run.Keeps (Estate.law owner) (fun _ t => t = s)
      (fun _ _ t => t = s) [] s :=
    keeps_opening address (fun _ _ h => h)
      (fun c r tr t t' hc ht hr => by
        subst ht
        cases c <;> first | exact hr | cases hc) rfl
  rcases run_reaches hrun with ⟨d₁, h₁⟩ |
    ⟨tr₁, scanId, start, entries, s₁, vs, s₂, tr₂, h₁, hvs, -, htr, hclock⟩
  · obtain rfl := (hopening.reaches h₁).now
    exact ⟨tr, [], [], by simp, .done _, by simp⟩
  · obtain rfl := hopening.ends h₁
    obtain rfl : s' = s₂ := by
      rcases hclock with ⟨-, h⟩ | ⟨r, -, h⟩
      · exact h
      · exact h
    exact ⟨tr₁, vs, tr₂, htr, hvs, fun v hv => footprint_of_reaches (hvs.reaches hv)⟩

end

open Sample in
theorem scan_footprint_sample :
    ∃ vs, Rounds (Estate.law (fleet.accountOf? "imap")) engine fleet.estate vs
        ((engine.run none).run.run World.answer fleet).2.estate ∧
      (∀ v ∈ vs, Footprint engine (fleet.accountOf? "imap") v) ∧
      ((engine.run none).run.run World.answer fleet).2.estate.folders 1 inbox
        = (fleet.estate.folders 1 inbox).map (Kept.add {classifiedFlag}) := by
  have htruthful : fleet.Truthful (fleet.accountOf? "imap") := by
    refine ⟨fun _ => rfl, fun f hf detail => ?_⟩
    rw [List.mem_singleton.1 hf]
    nofun
  obtain ⟨_, vs, _, -, hvs, hfootprint⟩ := scan_footprint engine (fleet.accountOf? "imap") none
    (Dialogue.ends_view World.estate _ (fun c w h => World.lawful_answer h c)
      (engine.run none).run htruthful)
  exact ⟨vs, hvs, hfootprint, by decide +kernel⟩

end Mailroom.Scan
