import Mailroom.Proofs.Scan.Conduct
/-!
  Mailroom.Proofs.Scan.Abiding
  ────────────────────────────────
  **A SCAN ABIDES BY ITS CONDUCT, WHATEVER THE WORLD ANSWERS.**

  `Abides` says of a program of a session that each of its questions is one that the
  conduct allows, that its failures are excused, and what it knows when it returns.
  A session `Knows` what it was told: a folder that it takes to be selected was
  selected last, and the sent folder that it remembers is one to which LIST led.

      scanEntry_abides    — the scan of an account
      scanEntry_preserves — what each step of it preserves holds all along
-/
namespace Mailroom.Scan

open Mailroom.Imap Mailroom.Mail Mailroom.Reply

/-! ## §1. Programs that abide by a conduct. -/

/-- A program of a session abides by the conduct of the scan of a mailbox; its failures
are excused, and what it returns is as told. -/
def Abides {σ α : Type} (law : Law σ) (e : Engine) (id : Int) (prog : SessionM α)
    (ok : α → Session → List Event → Prop) (ss : Session) (tr : List Event) (s : σ) : Prop :=
  Upholds law (fun tr _ => Obeyed (conduct e id) tr) prog (fun x ss tr _ => match x with
    | .ok a => ok a ss tr
    | .error f => Excused e.transport.previewLength f tr) ss tr s

/-- What a session knows is what it was told. -/
structure Knows (previewLength : Int) (ss : Session) (tr : List Event) : Prop where
  length : ss.previewLength = previewLength
  host : ∃ ep r, (⟨.connect ep, r⟩ : Event) ∈ tr ∧ ep.host = ss.host
  selected : ∀ x, ss.selected = some x → selection tr = some x
  sentFolder : ∀ name, ss.sentFolder = some name → Resolves tr name
  unlisted : ss.sentFolder = none → ¬ Listed tr

/-- An event that selects nothing and lists nothing takes nothing away from what a
session knows. -/
theorem Knows.concat {p : Int} {ss : Session} {tr : List Event} {ev : Event}
    (h : Knows p ss tr) (hev : selectionAfter (selection tr) ev = selection tr)
    (hlist : ev.1 ≠ .imap .list) : Knows p ss (tr ++ [ev]) where
  length := h.length
  host := by
    obtain ⟨ep, r, hc, hh⟩ := h.host
    exact ⟨ep, r, List.mem_append_left _ hc, hh⟩
  selected x hx := by
    rw [selection_concat, hev]
    exact h.selected x hx
  sentFolder name hn := (h.sentFolder name hn).mono (List.prefix_append _ _)
  unlisted hn := not_listed_concat (h.unlisted hn) hlist

theorem Onward.pages_eq {p : Int} {tr tr' : List Event} {heard : List (Question × Category)}
    (h : Onward p tr tr' [] heard) : Scan.pages p tr' = Scan.pages p tr := by
  simpa using h.pages

theorem Paging.onward {e : Engine} {folder : String} {tr tr' : List Event}
    (h : Paging e folder tr) (hon : Onward e.transport.previewLength tr tr' [] []) :
    Paging e folder tr' := by
  have hjudgements : Scan.judgements tr' = Scan.judgements tr := by simpa using hon.judgements
  unfold Paging
  rw [hon.pages_eq, hjudgements]
  exact ⟨h.1, h.2.imp_right fun h => ⟨h.1, h.2.mono hon.later⟩⟩

namespace Abides

variable {σ α β : Type} {law : Law σ} {e : Engine} {id : Int} {prog : SessionM α}
  {ok : α → Session → List Event → Prop} {ok' : β → Session → List Event → Prop}
  {ss : Session} {tr : List Event} {s : σ}

theorem mono {ok' : α → Session → List Event → Prop} (h : Abides law e id prog ok ss tr s)
    (hok : ∀ a ss tr, Obeyed (conduct e id) tr → ok a ss tr → ok' a ss tr) :
    Abides law e id prog ok' ss tr s := by
  refine Upholds.mono h fun x ss tr s hO hx => ?_
  rcases x with f | a
  · exact hx
  · exact hok a ss tr hO hx

theorem bind {f : α → SessionM β} (h : Abides law e id prog ok ss tr s)
    (hf : ∀ a ss tr s, Obeyed (conduct e id) tr → ok a ss tr → Abides law e id (f a) ok' ss tr s) :
    Abides law e id (prog >>= f) ok' ss tr s :=
  Upholds.bind h hf fun _ _ _ _ _ h => h

theorem pure {a : α} (hO : Obeyed (conduct e id) tr) (h : ok a ss tr) :
    Abides law e id (pure a) ok ss tr s :=
  Upholds.pure hO h

theorem ofExcept_bind {ε : Type} {failure : ε → Failure} {x : Except ε α} {f : α → SessionM β}
    (hO : Obeyed (conduct e id) tr) (hok : ∀ a, x = .ok a → Abides law e id (f a) ok' ss tr s)
    (herr : ∀ err, x = .error err → Excused e.transport.previewLength (failure err) tr) :
    Abides law e id (SessionM.ofExcept failure x >>= f) ok' ss tr s :=
  Upholds.ofExcept_bind hO hok herr

theorem ofExcept {ε : Type} {failure : ε → Failure} {x : Except ε α}
    (hO : Obeyed (conduct e id) tr) (hok : ∀ a, x = .ok a → ok a ss tr)
    (herr : ∀ err, x = .error err → Excused e.transport.previewLength (failure err) tr) :
    Abides law e id (SessionM.ofExcept failure x) ok ss tr s :=
  Upholds.ofExcept hO hok herr

/-- A command that the rule allows, and what follows it. -/
theorem command_bind {operation : Operation} {folder : Option String} {c : Imap.Command}
    {f : List Item → SessionM β} (hO : Obeyed (conduct e id) tr) (hc : onConnection e tr c)
    (hf : ∀ r s' items, accepted? r = some items → Obeyed (conduct e id) (tr ++ [⟨.imap c, r⟩]) →
      Abides law e id (f items) ok' ss (tr ++ [⟨.imap c, r⟩]) s') :
    Abides law e id (command operation folder c >>= f) ok' ss tr s := by
  have hO' : ∀ r, Obeyed (conduct e id) (tr ++ [⟨.imap c, r⟩]) := fun r => hO.concat (c := .imap c) hc r
  exact Upholds.command_bind hO (fun r s' items _ ha => hf r s' items ha (hO' r))
    fun r s' f _ ho => ⟨hO' r, excused_of_outcome ho⟩

/-! ## §2. The operations of a session. -/

theorem select {folder : String} {readonly : Bool} (hO : Obeyed (conduct e id) tr)
    (hk : Knows e.transport.previewLength ss tr) :
    Abides law e id (select folder readonly) (fun _ ss' tr' =>
      Knows e.transport.previewLength ss' tr' ∧ selection tr' = some (folder, readonly) ∧
        Onward e.transport.previewLength tr tr' [] []) ss tr s := by
  unfold Imap.select
  refine Upholds.session_bind ?_
  split
  next h =>
    -- The session may skip the command, as the folder is still selected.
    exact pure hO ⟨hk, hk.selected _ (by simpa using h), .refl _ _⟩
  next h =>
    refine command_bind hO trivial fun r s' items ha hO' => ?_
    have hsel : selection (tr ++ [⟨.imap (.select (quotedName folder) readonly), r⟩])
        = some (folder, readonly) := by
      rw [selection_concat]
      simp [selectionAfter, ha, unquotedName_quotedName]
    refine Upholds.update hO' ⟨⟨hk.length, ?_, ?_, ?_, ?_⟩, hsel, .concat _ _ _⟩
    · obtain ⟨ep, r, hc, hh⟩ := hk.host
      exact ⟨ep, r, List.mem_append_left _ hc, hh⟩
    · intro x hx
      rw [hsel, ← hx]
    · exact fun name hn => (hk.sentFolder name hn).mono (List.prefix_append _ _)
    · exact fun hn => not_listed_concat (hk.unlisted hn) nofun

theorem search {folder : String} {c : Criterion} (hO : Obeyed (conduct e id) tr)
    (hk : Knows e.transport.previewLength ss tr) {name : String}
    (hsel : selection tr = some (name, true)) :
    Abides law e id (search folder c) (fun uids ss' tr' => ss' = ss ∧
      Knows e.transport.previewLength ss tr' ∧ selection tr' = some (name, true) ∧
        Onward e.transport.previewLength tr tr' [] [] ∧
        (uids.length < 2 ^ 63 ∨ ∃ ev ∈ tr', ¬ Legible e.transport.previewLength ev)) ss tr s := by
  unfold Imap.search
  refine command_bind hO ⟨name, hsel⟩ fun r s' items ha hO' => ?_
  have hread : ∀ P : Prop, (∀ uids, uidsOf items = .ok uids → uids.length < 2 ^ 63 → P) →
      P ∨ ¬ Legible e.transport.previewLength ⟨.imap (.search c), r⟩ := by
    intro P hP
    refine or_iff_not_imp_right.2 fun h => ?_
    obtain ⟨uids, hu, hlen⟩ := (not_not.1 h).2 items ha
    exact hP uids hu hlen
  refine ofExcept hO' (fun uids hu => ?_) fun err he => ?_
  · refine ⟨rfl, hk.concat rfl nofun, ?_, .concat _ _ _, ?_⟩
    · rw [selection_concat]
      exact hsel
    · refine (hread _ fun uids' hu' hlen => ?_).imp_right fun h => ⟨_, by simp, h⟩
      rw [hu] at hu'
      cases hu'
      exact hlen
  · refine .last ((hread False fun uids hu _ => ?_).resolve_left not_false)
    rw [he] at hu
    cases hu

theorem fetch {folder : String} {uids : List Int} (hO : Obeyed (conduct e id) tr)
    (hk : Knows e.transport.previewLength ss tr) (hc : onConnection e tr (.fetch uids)) :
    Abides law e id (fetch folder uids) (fun ms ss' tr' => ss' = ss ∧
      Knows e.transport.previewLength ss tr' ∧
      ∃ shown, Holds.Paged shown ms ∧ Onward e.transport.previewLength tr tr' shown []) ss tr s := by
  unfold Imap.fetch
  split
  next hnone => exact pure hO ⟨rfl, hk, [], .inr ⟨rfl, rfl⟩, .refl _ _⟩
  next hsome =>
    refine command_bind hO hc fun r s' items ha hO' => ?_
    have hlegible : ∀ {f}, messagesOf e.transport.previewLength r = none →
        Excused e.transport.previewLength f (tr ++ [⟨.imap (.fetch uids), r⟩]) := by
      intro f hnone
      refine .last fun h => ?_
      have hsome := h.2 (by rw [ha]; rfl)
      rw [hnone] at hsome
      cases hsome
    refine ofExcept_bind hO' (fun found hf => Upholds.session_bind ?_) fun err he => ?_
    · rw [hk.length]
      refine ofExcept_bind hO' (fun ms hms => pure hO' ⟨rfl, hk.concat rfl nofun, [newestFirst ms],
        .inl rfl, ?_⟩) fun err he => hlegible ?_
      · have hpage : messagesOf e.transport.previewLength r = some (newestFirst ms) := by
          simp [messagesOf, ha, hf, hms, Except.toOption]
        have hon := Onward.concat e.transport.previewLength tr ⟨.imap (.fetch uids), r⟩
        simpa only [pageIn, hpage, judgementIn, Option.toList] using hon
      · simp [messagesOf, ha, hf, he, Except.toOption]
    · exact hlegible (by simp [messagesOf, ha, he, Except.toOption])

/-- A session that listed its folders knows its sent folder, and LIST led to it. -/
theorem findSentFolder (hO : Obeyed (conduct e id) tr)
    (hk : Knows e.transport.previewLength ss tr) (hnew : ss.sentFolder = none) :
    Abides law e id findSentFolder (fun name ss' tr' => ss' = ss ∧
      Knows e.transport.previewLength { ss with sentFolder := some name } tr' ∧
      Resolves tr' name ∧ Onward e.transport.previewLength tr tr' [] []) ss tr s := by
  obtain ⟨ep, r', hconnect, hhost⟩ := hk.host
  have hbefore : ∀ r, (⟨.connect ep, r'⟩ : Event) ∈ tr ++ [⟨.imap .list, r⟩] :=
    fun r => List.mem_append_left _ hconnect
  have hlast : ∀ r, (⟨.imap .list, r⟩ : Event) ∈ tr ++ [⟨.imap .list, r⟩] := by simp
  refine Upholds.findSentFolder hO
    (fun r _ _ => hO.concat (c := .imap .list) (hk.unlisted hnew) r) ?_ ?_
  · intro r s' name _ hname
    have hresolves : Resolves (tr ++ [⟨.imap .list, r⟩]) name :=
      ⟨ep, r', r, hbefore r, hlast r, hhost ▸ hname⟩
    refine ⟨rfl, ⟨hk.length, ⟨ep, r', hbefore r, hhost⟩, fun x hx => ?_, ?_, nofun⟩, hresolves,
      .concat _ _ _⟩
    · rw [selection_concat]
      exact hk.selected x hx
    · intro name' hn
      cases hn
      exact hresolves
  · intro r s' f _ hunfound
    rcases hunfound with ⟨reason, rfl⟩ | ⟨items, ha, hunread⟩ | hnamed
    · exact .last fun hlegible => hlegible.1 reason rfl
    · refine .last fun hlegible => ?_
      obtain ⟨folders, hf⟩ := hlegible.2 items ha
      exact hunread folders hf
    · refine .inr ⟨_, hbefore r, fun hlegible => ?_⟩
      obtain ⟨h, htext⟩ := hlegible.1
      exact hnamed h (hhost ▸ htext)

/-- The name of the sent folder is one to which LIST led, now or before. -/
theorem resolveSent (hO : Obeyed (conduct e id) tr)
    (hk : Knows e.transport.previewLength ss tr) :
    Abides law e id (resolve sent) (fun name ss' tr' =>
      Knows e.transport.previewLength ss' tr' ∧ Resolves tr' name ∧
      Onward e.transport.previewLength tr tr' [] []) ss tr s := by
  unfold resolve
  rw [if_neg (by decide +kernel), if_pos (by decide +kernel)]
  refine Upholds.session_bind ?_
  split
  next name h => exact pure hO ⟨hk, hk.sentFolder name h, .refl _ _⟩
  next h =>
    refine bind (findSentFolder hO hk h) fun name ss' tr' s' hO' h => ?_
    obtain ⟨rfl, hk', hname, hon⟩ := h
    exact Upholds.update_bind (pure hO' ⟨hk', hname, hon⟩)

theorem fetchUnclassified {folder : String} {limit : Int} (hO : Obeyed (conduct e id) tr)
    (hk : Knows e.transport.previewLength ss tr) (hp : Paging e folder tr) :
    Abides law e id (fetchUnclassified folder limit) (fun ms ss' tr' =>
      Knows e.transport.previewLength ss' tr' ∧
      ∃ shown, Holds.Paged shown ms ∧ Onward e.transport.previewLength tr tr' shown []) ss tr s := by
  unfold Imap.fetchUnclassified
  refine bind (select hO hk) fun _ ss₁ tr₁ s₁ hO₁ h => ?_
  obtain ⟨hk₁, hsel₁, hon₁⟩ := h
  refine bind (search hO₁ hk₁ hsel₁) fun uids ss₂ tr₂ s₂ hO₂ h => ?_
  obtain ⟨rfl, hk₂, hsel₂, hon₂, -⟩ := h
  have hon := hon₁.trans hon₂
  refine mono (fetch hO₂ hk₂ ⟨folder, hsel₂, hp.onward hon⟩) fun ms ss₃ tr₃ _ h => ?_
  obtain ⟨rfl, hk₃, shown, hshown, hon₃⟩ := h
  exact ⟨hk₃, shown, hshown, hon.trans hon₃⟩

theorem fetchFirstPage {folder : String} {limit : Int} (hO : Obeyed (conduct e id) tr)
    (hk : Knows e.transport.previewLength ss tr) (hp : Paging e folder tr) :
    Abides law e id (fetchPage folder limit 1) (fun page ss' tr' =>
      Knows e.transport.previewLength ss' tr' ∧
      ∃ shown, Holds.Paged shown page.messages ∧
        Onward e.transport.previewLength tr tr' shown []) ss tr s := by
  unfold fetchPage
  refine bind (select hO hk) fun _ ss₁ tr₁ s₁ hO₁ h => ?_
  obtain ⟨hk₁, hsel₁, hon₁⟩ := h
  refine bind (search hO₁ hk₁ hsel₁) fun uids ss₂ tr₂ s₂ hO₂ h => ?_
  obtain ⟨rfl, hk₂, hsel₂, hon₂, hmany⟩ := h
  have hon := hon₁.trans hon₂
  split
  next hpages =>
    refine Upholds.throw hO₂ (.inr (hmany.resolve_left fun hfew => ?_))
    have hcounted := Holds.paginate?_isSome (max 1 limit) 1 (Int.natCast_nonneg uids.length)
      (by exact_mod_cast hfew)
    rw [hpages] at hcounted
    cases hcounted
  next =>
    refine bind (fetch hO₂ hk₂ ⟨folder, hsel₂, hp.onward hon⟩) fun ms ss₃ tr₃ s₃ hO₃ h => ?_
    obtain ⟨rfl, hk₃, shown, hshown, hon₃⟩ := h
    exact pure hO₃ ⟨hk₃, shown, hshown, hon.trans hon₃⟩

end Abides

/-! ## §3. The scan of a session. -/

/-- What is called for stays called for. -/
theorem Called.onward {e : Engine} {tr tr' : List Event} {heard : List (Question × Category)}
    {w : Write} (h : Called e tr w) (hon : Onward e.transport.previewLength tr tr' [] heard) :
    Called e tr' w := by
  obtain ⟨sent, t, c, hsent, ht, hc, hw⟩ := h
  refine ⟨sent, t, c, hsent.mono hon.later, ?_, ?_, hw⟩
  · rwa [hon.pages_eq]
  · rw [hon.judgements]
    exact List.mem_append_left _ hc

/-- What came of a scan: a result for the account without an error, and a failure, if
any, that is excused. -/
structure Reported (previewLength : Int) (account : Json) (pr : Progress) (tr : List Event) :
    Prop where
  account : pr.result.account = account
  error : pr.result.error = none
  failure : ∀ f, pr.failure = some f → Excused previewLength f tr

/-- What came of a scan that returned, or of one that did not get so far. -/
def Told (previewLength : Int) (account : Json) : Except Failure Progress → List Event → Prop
  | .ok pr, tr => Reported previewLength account pr tr
  | .error f, tr => Excused previewLength f tr

namespace Abides

variable {σ : Type} {law : Law σ} {e : Engine} {id : Int} {ss : Session} {tr : List Event} {s : σ}

theorem setFlag {w : Write} (hO : Obeyed (conduct e id) tr)
    (hk : Knows e.transport.previewLength ss tr) (hflag : isFlag w.flag = true)
    (hw : Called e tr w) :
    Abides law e id (setFlag w.folder w.uid w.flag) (fun _ ss' tr' =>
      Knows e.transport.previewLength ss' tr' ∧
        Onward e.transport.previewLength tr tr' [] []) ss tr s := by
  unfold Imap.setFlag store checkFlag
  rw [if_pos hflag]
  show Abides law e id (Imap.select w.folder false >>= _) _ ss tr s
  refine bind (select hO hk) fun _ ss₁ tr₁ s₁ hO₁ h => ?_
  obtain ⟨hk₁, hsel₁, hon₁⟩ := h
  refine command_bind hO₁ ⟨rfl, w.folder, hsel₁, hw.onward hon₁⟩ fun r s' items ha hO' => ?_
  exact pure hO' ⟨hk₁.concat rfl nofun, hon₁.trans (.concat _ _ _)⟩

theorem setFlags {ws : List Write} (hO : Obeyed (conduct e id) tr)
    (hk : Knows e.transport.previewLength ss tr) (hflag : ∀ w ∈ ws, isFlag w.flag = true)
    (hws : ∀ w ∈ ws, Called e tr w) :
    Abides law e id (setFlags ws) (fun _ ss' tr' =>
      Knows e.transport.previewLength ss' tr' ∧
        Onward e.transport.previewLength tr tr' [] []) ss tr s := by
  induction ws generalizing ss tr s with
  | nil => exact pure hO ⟨hk, .refl _ _⟩
  | cons w ws ih =>
    refine bind (setFlag hO hk (hflag w List.mem_cons_self) (hws w List.mem_cons_self)) ?_
    intro _ ss₁ tr₁ s₁ hO₁ h
    obtain ⟨hk₁, hon₁⟩ := h
    refine mono (ih hO₁ hk₁ (fun v hv => hflag v (List.mem_cons_of_mem _ hv))
      fun v hv => (hws v (List.mem_cons_of_mem _ hv)).onward hon₁) fun _ ss₂ tr₂ _ h => ?_
    exact ⟨h.1, hon₁.trans h.2⟩

/-- The judgement on the reply of a task. -/
theorem judge {t : Task} (hO : Obeyed (conduct e id) tr)
    (hk : Knows e.transport.previewLength ss tr)
    (ht : t ∈ tasksIn (pages e.transport.previewLength tr)) :
    (e.classifier.judge t.reply.subject t.reply.preview).run.Keeps law
      (fun tr _ => Obeyed (conduct e id) tr) (fun x tr' _ => match x with
        | .ok c => Knows e.transport.previewLength ss tr' ∧
            Onward e.transport.previewLength tr tr' [] [(t.question e.classifier, c)]
        | .error f => Excused e.transport.previewLength f tr') tr s := by
  rw [judge_run]
  refine ⟨hO, fun r s' _ => ⟨hO.concat (c := .classify _) ⟨t, ht, rfl⟩ r, ?_⟩⟩
  have hon := Onward.concat e.transport.previewLength tr ⟨.classify (t.question e.classifier), r⟩
  -- An answer without a category is an error of the service, or it cannot be read.
  rcases r with reason | blocks
  · exact .inl rfl
  · cases hc : Category.ofBlocks blocks with
    | ok c =>
      simp only [verdict, hc]
      refine ⟨hk.concat rfl fun heq => ?_, ?_⟩
      · cases heq
      · simp only [pageIn, judgementIn, categoryIn, hc, Except.toOption, Option.map,
          Option.toList] at hon
        exact hon
    | error err =>
      simp only [verdict, hc]
      refine .last fun hlegible => ?_
      obtain ⟨c, hc'⟩ := hlegible blocks rfl
      rw [hc] at hc'
      cases hc'

/-- One task: its reply is judged, and what the judgement calls for is written. -/
theorem taskRun {sf : String} {t : Task} (hO : Obeyed (conduct e id) tr)
    (hk : Knows e.transport.previewLength ss tr) (hsf : Resolves tr sf)
    (ht : t ∈ tasksIn (pages e.transport.previewLength tr)) :
    Abides law e id (t.run e.classifier sf) (fun _ ss' tr' =>
      Knows e.transport.previewLength ss' tr' ∧
        ∃ heard, Onward e.transport.previewLength tr tr' [] heard) ss tr s := by
  unfold Task.run
  refine Upholds.ofProgram_bind (judge hO hk ht) (fun c tr₁ s₁ hO₁ h => ?_) fun f tr₁ s₁ _ h => h
  obtain ⟨hk₁, hon₁⟩ := h
  rw [writeOutcome_eq]
  refine bind (setFlags hO₁ hk₁ (fun w hw => isFlag_of_mem_writesOf hw) fun w hw => ?_)
    fun _ ss₂ tr₂ s₂ hO₂ h => ?_
  · refine ⟨sf, t, c, hsf.mono hon₁.later, ?_, ?_, hw⟩
    · rwa [hon₁.pages_eq]
    · rw [hon₁.judgements]
      exact List.mem_append_right _ List.mem_cons_self
  · exact pure hO₂ ⟨h.1, _, hon₁.trans h.2⟩

/-- The work on tasks, by induction on those that are left. -/
theorem work {sf : String} {result : AccountResult} {ts : List Task}
    (hO : Obeyed (conduct e id) tr) (hk : Knows e.transport.previewLength ss tr)
    (hsf : Resolves tr sf) (hts : ∀ t ∈ ts, t ∈ tasksIn (pages e.transport.previewLength tr))
    (herror : result.error = none) :
    Abides law e id (e.work sf result ts) (fun pr _ tr' =>
      Reported e.transport.previewLength result.account pr tr') ss tr s := by
  induction ts generalizing result ss tr s with
  | nil => exact pure hO ⟨rfl, herror, nofun⟩
  | cons t ts ih =>
    unfold Engine.work
    refine Upholds.attempt_bind (taskRun hO hk hsf (hts t List.mem_cons_self)) ?_
    intro x ss₁ tr₁ s₁ hO₁ h
    rcases x with f | c
    · refine pure hO₁ ⟨rfl, herror, fun f' hf' => ?_⟩
      cases hf'
      exact h
    · obtain ⟨hk₁, heard, hon₁⟩ := h
      refine ih hO₁ hk₁ (hsf.mono hon₁.later) (fun t' ht' => ?_) herror
      rw [hon₁.pages_eq]
      exact hts t' (List.mem_cons_of_mem _ ht')

/-- **The scan of a session** starts before any page was shown. -/
theorem scanSession {account : Json} (hO : Obeyed (conduct e id) tr)
    (hk : Knows e.transport.previewLength ss tr)
    (hnone : pages e.transport.previewLength tr = []) (hunjudged : judgements tr = []) :
    Abides law e id (e.scanSession { account }) (fun pr _ tr' =>
      Reported e.transport.previewLength account pr tr') ss tr s := by
  unfold Engine.scanSession Engine.newReplies
  rw [bind_assoc]
  refine bind (fetchUnclassified hO hk ⟨hunjudged, .inl ⟨hnone, rfl⟩⟩) fun ms ss₁ tr₁ s₁ hO₁ h => ?_
  obtain ⟨hk₁, shown, hshown, hon₁⟩ := h
  rw [pure_bind]
  split
  next hempty => exact pure hO₁ ⟨rfl, rfl, nofun⟩
  next hsome =>
    -- Nothing was fetched only where nothing was found.
    obtain rfl : shown = [ms] := hshown.resolve_right fun h => hsome (by rw [h.2]; rfl)
    have hpages₁ : pages e.transport.previewLength tr₁ = [ms] := by simp [hon₁.pages, hnone]
    unfold Engine.sentMessages
    rw [bind_assoc]
    refine bind (resolveSent hO₁ hk₁) fun folder ss₂ tr₂ s₂ hO₂ h => ?_
    obtain ⟨hk₂, hfolder, hon₂⟩ := h
    have hpages₂ : pages e.transport.previewLength tr₂ = [ms] := by rw [hon₂.pages_eq, hpages₁]
    have hjudgements₂ : judgements tr₂ = [] := by simp [hon₂.judgements, hon₁.judgements, hunjudged]
    rw [bind_assoc]
    refine bind (fetchFirstPage hO₂ hk₂ ⟨hjudgements₂, .inr ⟨by simp [hpages₂], hfolder⟩⟩)
      fun page ss₃ tr₃ s₃ hO₃ h => ?_
    obtain ⟨hk₃, shown₂, hshown₂, hon₃⟩ := h
    rw [pure_bind]
    have hpages₃ : pages e.transport.previewLength tr₃ = [ms] ++ shown₂ := by
      rw [hon₃.pages, hpages₂]
    have hpage : ([ms] ++ shown₂).getD 1 [] = page.messages := by
      rcases hshown₂ with rfl | ⟨rfl, h⟩
      · rfl
      · exact h.symm
    refine work hO₃ hk₃ (hfolder.mono hon₃.later) (fun t ht => ?_) rfl
    rw [hpages₃, tasksIn, matchingIn, hpage]
    exact ht

end Abides

/-! ## §4. The scan of an account. -/

section Account

variable {σ : Type} {law : Law σ} {e : Engine} {id : Int} {tr : List Event} {s : σ}

/-- The record of the mailbox is asked for, before there is a connection. -/
theorem abides_mailbox (hO : Obeyed (conduct e id) tr) (hnew : ¬ Connected tr ∧ ¬ Listed tr) :
    (e.directory.mailbox id).run.Keeps law (fun tr _ => Obeyed (conduct e id) tr)
      (fun x tr' _ => Onward e.transport.previewLength tr tr' [] [] ∧
        (¬ Connected tr' ∧ ¬ Listed tr') ∧ match x with
        | .ok m => Described tr' m
        | .error f => Excused e.transport.previewLength f tr') tr s := by
  unfold Directory.Client.mailbox Directory.Client.request
  by_cases hmax : e.directory.maxRetries < 0
  · have hnone : (e.directory.maxRetries + 1).toNat = 0 := by omega
    rw [hnone]
    exact ⟨hO, .refl _ _, hnew, .inl rfl⟩
  · let P : List Event → σ → Prop := fun tr' _ =>
      Obeyed (conduct e id) tr' ∧ Onward e.transport.previewLength tr tr' [] [] ∧
        ¬ Connected tr' ∧ ¬ Listed tr'
    have hasked : ∀ q r tr s s', Requests (e.directory.urlOf s!"mailboxes/{id}") q → P tr s →
        law s q r s' → P (tr ++ [⟨q, r⟩]) s' :=
      fun q r tr s s' hq h _ => ⟨h.1.concat (hq.conduct h.2.2.1) r, h.2.1.trans (.silent hq.silent r),
        hq.unopened h.2.2⟩
    have hleft : 0 < (e.directory.maxRetries + 1).toNat := by omega
    have hstart : P tr s := ⟨hO, .refl _ _, hnew⟩
    refine keeps_program_bind (keeps_attempts e.directory _ .null (fun tr s h => h.1) hasked hleft
      hstart) (fun body tr₁ s₁ hO₁ h => ?_) fun f tr₁ s₁ hO₁ h => ?_
    · obtain ⟨⟨-, hon, hnew'⟩, req, r, hev, -, hstatus, hb⟩ := h
      cases hm : Directory.Mailbox.ofJson body with
      | ok m => exact ⟨hO₁, hon, hnew', req, r, body, hev, hb, hm⟩
      | error err =>
        refine ⟨hO₁, hon, hnew', .inr ⟨_, hev, fun hlegible => ?_⟩⟩
        obtain ⟨m, hm'⟩ := hlegible body hstatus hb
        rw [hm] at hm'
        cases hm'
    · obtain ⟨⟨-, hon, hnew'⟩, req, r, hev, hspoils⟩ := h
      exact ⟨hon, hnew', hspoils.excused hev⟩

/-- A fault of a new connection. -/
theorem excused_of_connect {p : Int} {ep : Endpoint} {fault : Imap.Fault} {ev : Event}
    (h : Legible p ev → ∀ reason, fault ≠ .foreign reason) :
    Excused p (connectFailure ep fault) (tr ++ [ev]) := by
  cases fault with
  | connection reason => exact .inl rfl
  | foreign reason => exact .last fun hlegible => h hlegible reason rfl

theorem abides_connect {m : Directory.Mailbox} (hO : Obeyed (conduct e id) tr)
    (hm : Described tr m) (hnew : ¬ Connected tr ∧ ¬ Listed tr) :
    (connect (e.transport.endpoint m)).run.Keeps law (fun tr _ => Obeyed (conduct e id) tr)
      (fun x tr' _ => Onward e.transport.previewLength tr tr' [] [] ∧ match x with
        | .ok _ => ¬ Listed tr' ∧ ∃ r, (⟨.connect (e.transport.endpoint m), r⟩ : Event) ∈ tr'
        | .error f => Excused e.transport.previewLength f tr') tr s := by
  unfold connect
  refine keeps_ask_bind hO fun r s₁ _ => ?_
  have hO₁ := hO.concat (c := .connect (e.transport.endpoint m)) ⟨hnew.1, m, hm, rfl⟩ r
  have hon₁ := Onward.concat e.transport.previewLength tr
    ⟨.connect (e.transport.endpoint m), r⟩
  have hnew₁ : ¬ Listed (tr ++ [⟨.connect (e.transport.endpoint m), r⟩]) :=
    not_listed_concat hnew.2 nofun
  match r with
  | .error fault =>
    refine ⟨hO₁, hon₁, excused_of_connect fun hlegible reason h => ?_⟩
    exact hlegible.2 reason (congrArg Except.error h)
  | .ok capabilities =>
    dsimp only
    split
    · refine keeps_ask_bind hO₁ fun r s₂ _ => ?_
      have hO₂ := hO₁.concat (c := .imap .startTls) trivial r
      have hon₂ := hon₁.trans (.concat e.transport.previewLength _ ⟨.imap .startTls, r⟩)
      match r with
      | .error fault =>
        refine ⟨hO₂, hon₂, excused_of_connect fun hlegible reason h => ?_⟩
        exact hlegible.1 reason (congrArg Except.error h)
      | .ok r => exact ⟨hO₂, hon₂, not_listed_concat hnew₁ nofun, .ok capabilities, by simp⟩
    · exact ⟨hO₁, hon₁, hnew₁, .ok capabilities, by simp⟩

theorem abides_login {m : Directory.Mailbox} {ep : Endpoint} (hO : Obeyed (conduct e id) tr)
    (hm : Described tr m) (hnew : ¬ Listed tr) :
    (login m ep).run.Keeps law (fun tr _ => Obeyed (conduct e id) tr)
      (fun x tr' _ => Onward e.transport.previewLength tr tr' [] [] ∧ match x with
        | .ok _ => ¬ Listed tr'
        | .error f => Excused e.transport.previewLength f tr') tr s := by
  unfold login
  refine keeps_ask_bind hO fun r s₁ _ => ?_
  have hO₁ := hO.concat (c := .imap (.login m.imap.user m.imap.password)) ⟨m, hm, rfl, rfl⟩ r
  have hon₁ := Onward.concat e.transport.previewLength tr
    ⟨.imap (.login m.imap.user m.imap.password), r⟩
  match r with
  | .ok r => exact ⟨hO₁, hon₁, not_listed_concat hnew nofun⟩
  | .error (.foreign reason) =>
    exact ⟨hO₁, hon₁, .last fun hlegible => hlegible.1 reason rfl⟩
  | .error (.connection reason) =>
    refine keeps_ask_bind hO₁ fun r s₂ _ => ?_
    have hO₂ := hO₁.concat (c := .imap .logout) trivial r
    have hon₂ := hon₁.trans (.concat e.transport.previewLength _ ⟨.imap .logout, r⟩)
    match r with
    | .error (.foreign reason) =>
      exact ⟨hO₂, hon₂, .last fun hlegible => hlegible.1 reason rfl⟩
    | .error (.connection reason) => exact ⟨hO₂, hon₂, .inl rfl⟩
    | .ok r => exact ⟨hO₂, hon₂, .inl rfl⟩

/-- A started session knows the host that it is connected to, and nothing else. -/
theorem abides_start {m : Directory.Mailbox} (hO : Obeyed (conduct e id) tr)
    (hm : Described tr m) (hnew : ¬ Connected tr ∧ ¬ Listed tr) :
    (e.transport.start m).run.Keeps law (fun tr _ => Obeyed (conduct e id) tr)
      (fun x tr' _ => Onward e.transport.previewLength tr tr' [] [] ∧ match x with
        | .ok ss => Knows e.transport.previewLength ss tr'
        | .error f => Excused e.transport.previewLength f tr') tr s := by
  unfold Transport.start
  refine keeps_program_bind (abides_connect hO hm hnew) ?_ fun f tr s _ h => h
  intro _ tr₁ s₁ hO₁ h
  obtain ⟨hon₁, hnew₁, r, hev⟩ := h
  refine keeps_program_bind (abides_login hO₁ (hm.mono hon₁.later) hnew₁) ?_
    fun f tr s _ h => ⟨hon₁.trans h.1, h.2⟩
  intro _ tr₂ s₂ hO₂ h
  obtain ⟨hon₂, hnew₂⟩ := h
  exact ⟨hO₂, hon₁.trans hon₂, rfl, ⟨_, r, hon₂.later.mem hev, rfl⟩, nofun, nofun,
    fun _ => hnew₂⟩

theorem abides_close {ss : Session} (hO : Obeyed (conduct e id) tr) :
    Upholds law (fun tr _ => Obeyed (conduct e id) tr) close (fun x _ tr' _ => tr <+: tr' ∧
      ∀ f, x = .error f → Excused e.transport.previewLength f tr') ss tr s := by
  unfold close
  refine Upholds.ask_bind hO fun r s₁ _ => Upholds.update_bind ?_
  have hO₁ := hO.concat (c := .imap .logout) trivial r
  have hlater : tr <+: tr ++ [⟨.imap .logout, r⟩] := List.prefix_append _ _
  match r with
  | .ok r => exact Upholds.pure hO₁ ⟨hlater, nofun⟩
  | .error (.connection reason) => exact Upholds.pure hO₁ ⟨hlater, nofun⟩
  | .error (.foreign reason) =>
    exact Upholds.throw hO₁ ⟨hlater, fun f _ => .last fun hlegible => hlegible.1 reason rfl⟩

/-- **The scan of an account abides by its conduct**, whatever the world answers, and
its failure, if any, is excused. -/
theorem scanEntry_abides (e : Engine) (entry : Directory.Entry) (s : σ) :
    (e.scanEntry entry).Keeps law (fun tr _ => Obeyed (conduct e entry.id) tr)
      (fun pr tr _ => Reported e.transport.previewLength entry.email pr tr) [] s := by
  have hO : Obeyed (conduct e entry.id) [] := .nil _
  have hnew : ¬ Connected [] ∧ ¬ Listed [] := by simp [Connected, Listed]
  unfold Engine.scanEntry
  refine Dialogue.Keeps.bind (Dialogue.Keeps.mono
    (Q := fun x tr _ => Told e.transport.previewLength entry.email x tr) ?_ ?_)
  · refine keeps_program_bind (abides_mailbox hO hnew) ?_ fun f tr s _ h => h.2.2
    intro m tr₁ s₁ hO₁ h
    obtain ⟨hon₁, hnew₁, hm⟩ := h
    unfold Transport.within
    refine keeps_program_bind (abides_start hO₁ hm hnew₁) ?_ fun f tr s _ h => h.2
    intro ss tr₂ s₂ hO₂ h
    obtain ⟨hon₂, hk⟩ := h
    have hnone : pages e.transport.previewLength tr₂ = [] := by
      rw [hon₂.pages_eq, hon₁.pages_eq]
      rfl
    have hunjudged : judgements tr₂ = [] := by
      simp only [hon₂.judgements, hon₁.judgements, List.append_nil]
      rfl
    refine keeps_lift_bind (Dialogue.Keeps.mono (Abides.scanSession hO₂ hk hnone hunjudged) ?_)
    intro last tr₃ s₃ hO₃ hx
    obtain ⟨x, ss₃⟩ := last
    refine keeps_lift_bind (Dialogue.Keeps.mono (abides_close hO₃) ?_)
    -- The connection ends whatever the outcome of the session was.
    intro last tr₄ s₄ hO₄ h
    obtain ⟨closed, ss₄⟩ := last
    obtain ⟨hlater, hclosed⟩ := h
    rcases closed with f | _
    · exact ⟨hO₄, hclosed f rfl⟩
    · rcases x with f | pr
      · exact ⟨hO₄, Excused.mono hx hlater⟩
      · exact ⟨hO₄, hx.account, hx.error, fun f hf => (hx.failure f hf).mono hlater⟩
  · intro x tr s hO hx
    rcases x with f | pr
    · refine ⟨hO, rfl, rfl, fun f' hf' => ?_⟩
      cases hf'
      exact hx
    · exact ⟨hO, hx⟩

/-! ## §5. Every moment of every run. -/

variable {entry : Directory.Entry} {t : σ}

/-- Each question of the scan of an account is one that its conduct allows. -/
theorem scanEntry_obeys {d : Dialogue Progress}
    (hrun : Dialogue.Reaches law (e.scanEntry entry) s tr d t) :
    Obeyed (conduct e entry.id) tr := by
  have hnow := ((scanEntry_abides e entry s).reaches hrun).now
  rwa [List.nil_append] at hnow

/-- What the scan of an account returns tells what came of it. -/
theorem scanEntry_reports {pr : Progress}
    (hrun : Dialogue.Ends law (e.scanEntry entry) s tr pr t) :
    Reported e.transport.previewLength entry.email pr tr := by
  have hends := (scanEntry_abides e entry s).ends hrun
  rwa [List.nil_append] at hends

/-- **What each step preserves holds all along**: by induction on the scan, where a step
is a question that the conduct allows and an answer that the law allows. -/
theorem scanEntry_preserves {I : List Event → σ → Prop} {d : Dialogue Progress}
    (hrun : Dialogue.Reaches law (e.scanEntry entry) s tr d t) (hI : I [] s)
    (hstep : ∀ tr s c r s', conduct e entry.id tr c → law s c r s' → I tr s →
      I (tr ++ [⟨c, r⟩]) s') : I tr t := by
  have hnow := (((scanEntry_abides e entry s).along hI hstep).reaches hrun).now
  rwa [List.nil_append] at hnow

end Account

end Mailroom.Scan
