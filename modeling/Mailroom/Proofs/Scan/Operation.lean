import Mailroom.Proofs.Scan.Holding
import Mailroom.Proofs.Scan.Listing
/-!
  Mailroom.Proofs.Scan.Operation
  ────────────────────────────────
  **WHAT THE OPERATIONS OF A SESSION DO TO A MOMENT.**

  `Linked` ties what a session knows to the server that it talks to: above all, a
  folder that the session takes to be selected is selected.  Each rule starts from
  a linked session and says what an operation leaves behind:

      select, search, resolve sent   — the same moment
      fetchUnclassified, fetchPage   — one more page, or none where nothing is found
      setFlag                        — one more write, to the folder asked for

  and of each failure, that there was trouble.
-/
namespace Mailroom.Scan

open Mailroom.Imap Mailroom.Mail Mailroom.Simulation

/-! ## §1. The link between a session and its server. -/

/-- A session that knows its server. -/
structure Linked (previewLength : Int) (ss : Session) (tr : List Event) (s : Site) : Prop where
  length : ss.previewLength = previewLength
  host : ss.host = s.host
  named : (∃ h, s.host = .text h) ∨ Trouble previewLength tr
  selected : ∀ x, ss.selected = some x → s.selected = some x

theorem Linked.concat {p : Int} {ss : Session} {tr : List Event} {s : Site}
    (h : Linked p ss tr s) (ev : Event) : Linked p ss (tr ++ [ev]) s where
  length := h.length
  host := h.host
  named := h.named.imp_right fun ht => ht.append [ev]
  selected := h.selected

/-- An outcome that is at a certain moment; a failure comes from trouble. -/
def Same {α : Type} (p : Int) (μ : Moment) (ok : α → Session → List Event → Site → Prop) :
    Outcome α := fun x ss tr s =>
  moment p tr s = μ ∧ match x with
    | .ok a => ok a ss tr s
    | .error _ => Trouble p tr

/-- A quoted name is read as the name. -/
theorem unquotedName_quotedName (name : String) :
    World.unquotedName (quotedName name) = name := by
  -- By induction on the name: each character is escaped by itself.
  have hgo : ∀ cs : List Char, World.unquotedName.go (cs.flatMap escapedNameChar) = cs := by
    intro cs
    induction cs with
    | nil => rfl
    | cons c cs ih =>
      rw [List.flatMap_cons]
      by_cases h : c == '\\' || c == '"'
      · rw [show escapedNameChar c = ['\\', c] from if_pos h]
        show World.unquotedName.go ('\\' :: c :: List.flatMap escapedNameChar cs) = c :: cs
        rw [World.unquotedName.go, ih]
      · rw [show escapedNameChar c = [c] from if_neg h, List.singleton_append,
          World.unquotedName.go, ih]
        intro _ _ heq _
        subst heq
        exact h (by decide)
  unfold World.unquotedName quotedName
  rw [String.toList_ofList, List.cons_append, List.drop_succ_cons, List.drop_zero,
    List.dropLast_concat, hgo, String.ofList_toList]

/-- The UIDs found by a search are in ascending order. -/
theorem uidsOf_sorted {items : List Item} {uids : List Int} (h : uidsOf items = .ok uids) :
    uids.Pairwise (· ≤ ·) := by
  unfold uidsOf at h
  split at h
  · cases h; exact .nil
  · cases h; exact .nil
  · cases h; exact .nil
  · cases h
  next bs _ =>
    cases hn : (Text.byteWords bs).mapM number with
    | error e => rw [hn] at h; cases h
    | ok ns =>
      rw [hn] at h
      cases h
      -- The UIDs are sorted as they are read, whatever the server's order.
      exact List.pairwise_mergeSort' (· ≤ ·) ns

namespace Holds

variable {g : Regime} {p : Int} {J : Moment → Prop} {ss : Session} {tr : List Event} {s : Site}
  {μ : Moment}

/-! ## §2. Operations that leave the moment as it is. -/

/-- A silent command and what follows it: nothing changes. -/
theorem silent_bind {α : Type} {operation : Operation} {folder : Option String} {c : Imap.Command}
    {f : List Item → SessionM α} {Q : Outcome α} (hc : Silent (.imap c)) (hμ : moment p tr s = μ)
    (hJ : J μ)
    (hok : ∀ r s' items, g.law s (.imap c) r s' → accepted? r = some items →
      moment p (tr ++ [⟨.imap c, r⟩]) s' = μ →
        Holds g p J (f items) Q ss (tr ++ [⟨.imap c, r⟩]) s')
    (herr : ∀ r s' e, g.law s (.imap c) r s' → accepted? r = none →
      moment p (tr ++ [⟨.imap c, r⟩]) s' = μ →
        Q (.error (.transport e)) ss (tr ++ [⟨.imap c, r⟩]) s') :
    Holds g p J (command operation folder c >>= f) Q ss tr s := by
  subst hμ
  refine command_bind hJ (fun r s' items hr ha => ?_) fun r s' e hr ha => ?_
  · exact hok r s' items hr ha (moment_silent hc hr)
  · have hsame : moment p (tr ++ [⟨.imap c, r⟩]) s' = moment p tr s := moment_silent hc hr
    exact ⟨hsame ▸ hJ, herr r s' e hr ha hsame⟩

theorem select {folder : String} {readonly : Bool} (hμ : moment p tr s = μ) (hJ : J μ)
    (hl : Linked p ss tr s) :
    Holds g p J (select folder readonly) (Same p μ fun _ ss' tr' s' =>
      Linked p ss' tr' s' ∧ s'.selected = some (folder, readonly) ∧
        ss'.sentFolder = ss.sentFolder ∧ s'.folders = s.folders) ss tr s := by
  unfold Imap.select
  refine session_bind ?_
  split
  next h =>
    -- The session may skip the command, as the folder is still selected.
    exact pure (hμ ▸ hJ) ⟨hμ, hl, hl.selected _ (by simpa using h), rfl, rfl⟩
  next h =>
    refine silent_bind trivial hμ hJ (fun r s' items hr ha hμ' => ?_) fun r s' e hr ha hμ' => ?_
    · obtain ⟨-, rfl⟩ := hr
      have hlast := hl.concat ⟨.imap (.select (quotedName folder) readonly), r⟩
      refine update (hμ' ▸ hJ) ⟨hμ', ⟨hlast.length, hlast.host, hlast.named, ?_⟩, ?_, rfl, rfl⟩
      · intro x h
        cases h
        simp [ha, unquotedName_quotedName]
      · simp [ha, unquotedName_quotedName]
    · exact ⟨hμ', Trouble.last (by simp [Smooth, ha])⟩

/-- A search was no smooth one if its items give no UIDs, or too many. -/
theorem trouble_of_search {c : Criterion} {r : Except Imap.Fault Response} {items : List Item}
    (ha : accepted? r = some items) (h : ∀ uids, uidsOf items = .ok uids → ¬ uids.length < 2 ^ 63) :
    Trouble p (tr ++ [⟨.imap (.search c), r⟩]) := by
  apply Trouble.last
  intro hsmooth
  obtain ⟨items', uids, ha', hu, hlen⟩ := hsmooth
  obtain rfl : items = items' := Option.some.inj (ha.symm.trans ha')
  exact h uids hu hlen

theorem search {folder : String} {readonly : Bool} {c : Criterion} (hμ : moment p tr s = μ)
    (hJ : J μ) (hl : Linked p ss tr s) (hsel : s.selected = some (folder, readonly)) :
    Holds g p J (search folder c) (Same p μ fun uids ss' tr' s' =>
      ss' = ss ∧ s' = s ∧ Linked p ss tr' s ∧ uids.Pairwise (· ≤ ·) ∧
        (g.honest → uids.Perm (((s.folders folder).filter (·.meets c)).map (·.uid))) ∧
        (uids.length < 2 ^ 63 ∨ Trouble p tr')) ss tr s := by
  unfold Imap.search
  refine silent_bind trivial hμ hJ (fun r s' items hr ha hμ' => ?_) fun r s' e hr ha hμ' => ?_
  · obtain ⟨-, rfl, hfound⟩ := hr
    refine ofExcept (hμ' ▸ hJ) (fun uids hu => ?_) fun e he => ?_
    · refine ⟨hμ', rfl, rfl, hl.concat _, uidsOf_sorted hu, ?_, ?_⟩
      · exact hfound folder readonly items uids hsel ha hu
      · by_cases hlen : uids.length < 2 ^ 63
        · exact .inl hlen
        · refine .inr (trouble_of_search ha fun uids' hu' => ?_)
          rw [hu] at hu'
          cases hu'
          exact hlen
    · refine ⟨hμ', trouble_of_search ha fun uids hu => ?_⟩
      rw [he] at hu
      cases hu
  · exact ⟨hμ', Trouble.last (by simp [Smooth, ha])⟩

/-! ## §3. The sent folder. -/

theorem findSentFolder (hμ : moment p tr s = μ) (hJ : J μ) (hl : Linked p ss tr s) :
    Holds g p J findSentFolder (Same p μ fun name ss' tr' s' =>
      ss' = ss ∧ s' = s ∧ Linked p ss tr' s ∧ name = g.sent) ss tr s := by
  have hlisted : ∀ r s', g.law s (.imap .list) r s' →
      moment p (tr ++ [⟨.imap .list, r⟩]) s' = μ ∧ s' = s ∧
        ∀ name, sentFolderOf s.host r = .ok name → name = g.sent := by
    intro r s' hr
    have hsilent : Silent (.imap .list) := trivial
    have hμ' := (moment_silent hsilent hr).trans hμ
    obtain ⟨-, rfl, hsent⟩ := hr
    exact ⟨hμ', rfl, hsent⟩
  refine Upholds.findSentFolder (hμ ▸ hJ) (fun r s' hr => (hlisted r s' hr).1 ▸ hJ) ?_ ?_
  · intro r s' name hr hname
    obtain ⟨hμ', rfl, hsent⟩ := hlisted r s' hr
    exact ⟨hμ', rfl, rfl, hl.concat _, hsent name (hl.host ▸ hname)⟩
  · intro r s' f hr hunfound
    refine ⟨(hlisted r s' hr).1, ?_⟩
    rcases hunfound with ⟨reason, rfl⟩ | ⟨items, ha, hunread⟩ | hnamed
    · exact Trouble.last (by simp [Smooth, accepted?])
    · refine Trouble.last fun hsmooth => ?_
      obtain ⟨items', folders, ha', hf⟩ := hsmooth
      obtain rfl : items = items' := Option.some.inj (ha.symm.trans ha')
      exact hunread folders hf
    · refine (hl.concat ⟨.imap .list, r⟩).named.resolve_left fun htext => ?_
      obtain ⟨h, hh⟩ := htext
      exact hnamed h (hl.host.trans hh)

/-- **The sent folder is the one to which its name resolves.** -/
theorem resolveSent (hμ : moment p tr s = μ) (hJ : J μ) (hl : Linked p ss tr s)
    (hnew : ss.sentFolder = none) :
    Holds g p J (resolve sent) (Same p μ fun name ss' tr' s' =>
      s' = s ∧ Linked p ss' tr' s ∧ name = g.sent) ss tr s := by
  unfold resolve
  rw [if_neg (by decide +kernel), if_pos (by decide +kernel)]
  refine session_bind ?_
  simp only [hnew]
  refine bind (findSentFolder hμ hJ hl) ?_ fun e ss tr s _ h => h
  intro name ss' tr' s' hJ' h
  obtain ⟨hμ', rfl, rfl, hl', rfl⟩ := h
  refine update_bind (pure hJ' ⟨hμ', rfl, ⟨hl'.length, hl'.host, hl'.named, hl'.selected⟩, rfl⟩)

/-! ## §4. Pages. -/

/-- Where nothing is asked for, nothing is fetched: no page or one comes of a fetch. -/
def Paged (shown : List (List Message)) (ms : List Message) : Prop :=
  shown = [ms] ∨ shown = [] ∧ ms = []

/-- The moment after an answer to FETCH: one page more, if the answer can be read. -/
theorem moment_fetched (p : Int) (tr : List Event) {folder : String} {readonly : Bool}
    {uids : List Int} {r : Except Imap.Fault Response} {s' : Site}
    (hsel : s.selected = some (folder, readonly))
    (hr : g.law s (.imap (.fetch uids)) r s') :
    match messagesOf p r with
    | none => moment p (tr ++ [⟨.imap (.fetch uids), r⟩]) s' = moment p tr s ∧
        Trouble p (tr ++ [⟨.imap (.fetch uids), r⟩])
    | some page => moment p (tr ++ [⟨.imap (.fetch uids), r⟩]) s'
          = { moment p tr s with pages := (moment p tr s).pages ++ [page] } ∧
        Excerpt p g.honest (s.folders folder) uids page := by
  obtain ⟨-, rfl, hshown⟩ := hr
  cases hm : messagesOf p r with
  | none =>
    refine ⟨?_, Trouble.last (by simp [Smooth, hm])⟩
    rw [moment_concat]
    simp [moment, pageIn, judgementIn, hm]
  | some page =>
    obtain ⟨items, found, ms, ha, hf, hms, rfl⟩ := messagesOf_eq_some hm
    refine ⟨?_, Excerpt.of_shown (hshown folder readonly items found hsel ha hf) hms⟩
    rw [moment_concat]
    simp [moment, pageIn, judgementIn, hm]

theorem fetch {folder : String} {readonly : Bool} {uids : List Int} (hμ : moment p tr s = μ)
    (hJ : J μ) (hl : Linked p ss tr s) (hsel : s.selected = some (folder, readonly))
    (hpage : ∀ ms, Excerpt p g.honest (s.folders folder) uids ms →
      J { μ with pages := μ.pages ++ [ms] }) :
    Holds g p J (fetch folder uids) (fun x ss' tr' s' => match x with
      | .ok ms => ∃ shown, Paged shown ms ∧ moment p tr' s' = { μ with pages := μ.pages ++ shown } ∧
          ss' = ss ∧ s' = s ∧ Linked p ss tr' s ∧ Excerpt p g.honest (s.folders folder) uids ms
      | .error _ => moment p tr' s' = μ ∧ Trouble p tr') ss tr s := by
  subst hμ
  unfold Imap.fetch
  cases uids with
  | nil => exact pure hJ ⟨[], .inr ⟨rfl, rfl⟩, by simp, rfl, rfl, hl, Excerpt.nil _ _ _⟩
  | cons u us =>
    refine command_bind hJ (fun r s' items hr ha => ?_) fun r s' e hr ha => ?_
    · have hm := moment_fetched p tr hsel hr
      -- The page counts as shown as soon as it can be read, even if this run stops here.
      have hJ' : J (moment p (tr ++ [⟨.imap (.fetch (u :: us)), r⟩]) s') := by
        cases hr' : messagesOf p r with
        | none => rw [hr'] at hm; exact hm.1 ▸ hJ
        | some page => rw [hr'] at hm; exact hm.1 ▸ hpage page hm.2
      refine ofExcept_bind hJ' (fun found hf => session_bind ?_) fun e he => ?_
      · rw [hl.length]
        refine ofExcept_bind hJ' (fun ms hms => ?_) fun e he => ?_
        · simp only [messagesOf, ha, hf, hms, Except.toOption, Option.bind_eq_bind,
            Option.bind_some, Option.pure_def] at hm
          obtain ⟨-, rfl, -⟩ := hr
          exact pure hJ' ⟨_, .inl rfl, hm.1, rfl, rfl, hl.concat _, hm.2⟩
        · simp only [messagesOf, ha, hf, he, Except.toOption, Option.bind_eq_bind,
            Option.bind_some, Option.bind_none] at hm
          exact hm
      · simp only [messagesOf, ha, he, Except.toOption, Option.bind_eq_bind, Option.bind_some,
          Option.bind_none] at hm
        exact hm
    · have hm := moment_fetched p tr hsel hr
      simp only [messagesOf, ha, Option.bind_eq_bind, Option.bind_none] at hm
      exact ⟨hm.1 ▸ hJ, hm⟩

/-- The outcome of reading the newest messages of a folder that a criterion finds. -/
def Reads {α : Type} (g : Regime) (p : Int) (μ : Moment) (folder : String) (n : Int)
    (c : Criterion) (messages : α → List Message) (sentFolder : Option String) : Outcome α :=
  fun x ss tr s => match x with
    | .ok a => ∃ shown, Paged shown (messages a) ∧
        moment p tr s = { μ with pages := μ.pages ++ shown } ∧ Linked p ss tr s ∧
        ss.sentFolder = sentFolder ∧ Recent p g.honest n c (μ.folders folder) (messages a)
    | .error _ => moment p tr s = μ ∧ Trouble p tr

theorem fetchUnclassified {folder : String} {limit : Int} (hμ : moment p tr s = μ) (hJ : J μ)
    (hl : Linked p ss tr s)
    (hpage : ∀ ms, Recent p g.honest limit (.unkeyword classifiedFlag) (μ.folders folder) ms →
      J { μ with pages := μ.pages ++ [ms] }) :
    Holds g p J (fetchUnclassified folder limit)
      (Reads g p μ folder limit (.unkeyword classifiedFlag) id ss.sentFolder) ss tr s := by
  unfold Imap.fetchUnclassified
  refine bind (select hμ hJ hl) ?_ fun e ss tr s _ h => h
  intro _ ss₁ tr₁ s₁ _ h
  obtain ⟨hμ₁, hl₁, hsel₁, hsent, -⟩ := h
  refine bind (search hμ₁ hJ hl₁ hsel₁) ?_ fun e ss tr s _ h => h
  intro uids ss₂ tr₂ s₂ _ h
  obtain ⟨hμ₂, rfl, rfl, hl₂, hsorted, hfound, -⟩ := h
  have hfolders : s₂.folders = μ.folders := congrArg Moment.folders hμ₂
  rw [hfolders] at hfound
  have hrecent : ∀ ms, Excerpt p g.honest (s₂.folders folder) (lastOf limit uids) ms →
      Recent p g.honest limit (.unkeyword classifiedFlag) (μ.folders folder) ms := by
    intro ms hms
    rw [hfolders] at hms
    refine Recent.of_excerpt (hms.congr fun u => ?_) hsorted hfound
    rw [List.take_reverse, List.mem_reverse]
    rfl
  refine mono (fetch hμ₂ hJ hl₂ hsel₁ fun ms hms => hpage ms (hrecent ms hms)) ?_
  intro x ss₃ tr₃ s₃ _ h
  rcases x with e | ms
  · exact h
  · obtain ⟨shown, hshown, hμ₃, rfl, rfl, hl₃, hms⟩ := h
    exact ⟨shown, hshown, hμ₃, hl₃, hsent, hrecent ms hms⟩

/-- A folder with fewer than `2 ^ 63` messages has a number of pages. -/
theorem paginate?_isSome {total : Int} (limit page : Int) (h₀ : 0 ≤ total) (h : total < 2 ^ 63) :
    (paginate? total limit page).isSome := by
  have hfinite : ∀ negative (a b : Nat), a < 2 ^ 63 →
      ∃ m e, Number.Binary64.ofQuotient negative a b = .finite negative m e := by
    intro negative a b ha
    -- A quotient below `2 ^ 63` is far below the largest number that there is.
    have hlog : a.log2 < 63 := by
      rcases Nat.eq_zero_or_pos a with rfl | hpos
      · simp
      · exact (Nat.log2_lt (by omega)).2 ha
    have hplace : Number.Binary64.lastPlace a b ≤ 10 := by
      unfold Number.Binary64.lastPlace
      simp only
      split <;> omega
    unfold Number.Binary64.ofQuotient
    split
    · exact ⟨_, _, rfl⟩
    · dsimp only
      split <;> (rw [if_neg (by omega)]; exact ⟨_, _, rfl⟩)
  unfold paginate? pageCount?
  split
  · rfl
  · obtain ⟨m, e, he⟩ := hfinite (decide (total < 0) != decide (limit < 0)) total.natAbs
      limit.natAbs (by omega)
    simp [quotient, he, Number.Binary64.ceil?]

/-- The first page is never out of range. -/
theorem paginate?_first {total limit pages page : Int}
    (h : paginate? total limit 1 = some (pages, page)) : page = 1 := by
  unfold paginate? at h
  obtain ⟨n, hn, heq⟩ := Option.map_eq_some_iff.1 h
  -- There is at least one page, so the first page is not cut down.
  have hone : 1 ≤ n := by
    unfold pageCount? at hn
    split at hn
    · cases hn
      omega
    · obtain ⟨k, -, rfl⟩ := Option.map_eq_some_iff.1 hn
      omega
  simp only [Prod.mk.injEq] at heq
  omega

theorem fetchFirstPage {folder : String} {limit : Int} (hμ : moment p tr s = μ) (hJ : J μ)
    (hl : Linked p ss tr s)
    (hpage : ∀ ms, Recent p g.honest (max 1 limit) .all (μ.folders folder) ms →
      J { μ with pages := μ.pages ++ [ms] }) :
    Holds g p J (fetchPage folder limit 1)
      (Reads g p μ folder (max 1 limit) .all Page.messages ss.sentFolder) ss tr s := by
  unfold fetchPage
  refine bind (select hμ hJ hl) ?_ fun e ss tr s _ h => h
  intro _ ss₁ tr₁ s₁ _ h
  obtain ⟨hμ₁, hl₁, hsel₁, hsent, -⟩ := h
  refine bind (search hμ₁ hJ hl₁ hsel₁) ?_ fun e ss tr s _ h => h
  intro uids ss₂ tr₂ s₂ hJ₂ h
  obtain ⟨hμ₂, rfl, rfl, hl₂, hsorted, hfound, hmany⟩ := h
  have hfolders : s₂.folders = μ.folders := congrArg Moment.folders hμ₂
  rw [hfolders] at hfound
  cases hpages : paginate? uids.length (max 1 limit) 1 with
  | none =>
    refine throw hJ₂ ⟨hμ₂, hmany.resolve_left fun hfew => ?_⟩
    have := paginate?_isSome (max 1 limit) 1 (Int.natCast_nonneg uids.length)
      (by exact_mod_cast hfew)
    rw [hpages] at this
    cases this
  | some x =>
    obtain ⟨totalPages, page⟩ := x
    cases paginate?_first hpages
    dsimp only
    have hrecent : ∀ ms,
        Excerpt p g.honest (s₂.folders folder) (pageOf uids (max 1 limit) 1) ms →
          Recent p g.honest (max 1 limit) .all (μ.folders folder) ms := by
      intro ms hms
      rw [hfolders] at hms
      refine Recent.of_excerpt (hms.congr fun u => ?_) hsorted hfound
      simp [pageOf]
    refine bind (fetch hμ₂ hJ hl₂ hsel₁ fun ms hms => hpage ms (hrecent ms hms)) ?_
      fun e ss tr s _ h => h
    intro ms ss₃ tr₃ s₃ hJ₃ h
    obtain ⟨shown, hshown, hμ₃, rfl, rfl, hl₃, hms⟩ := h
    exact pure hJ₃ ⟨shown, hshown, hμ₃, hl₃, hsent, hrecent ms hms⟩

end Holds

end Mailroom.Scan
