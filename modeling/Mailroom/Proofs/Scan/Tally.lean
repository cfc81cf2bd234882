import Mailroom.Proofs.Imap.Vocabulary
import Mailroom.Proofs.Scan.Isolation
import Mailroom.Proofs.Scan.Ledger
/-!
  Mailroom.Proofs.Scan.Tally
  ────────────────────────────────
  **THE REPORT OF A SCAN TELLS WHAT ITS EVENTS SHOW.**

  A scan counts a reply when the writes of its outcome are through.  The ledger knows
  nothing of this count, and still agrees with it, whatever fails and wherever: before
  the replies are matched, at the classifier, or between two writes of one outcome.

      Standing        — between two tasks: those done are settled, the others are left
      tally_work      — the work on tasks, by induction on those that are left
      Tallied         — what the result of an account has to do with its ledger
      report_truthful — every result of a report, and the summary of all of them

  The one case in which a STORE was accepted and its task is not done is a failure
  before the next write.  It is the marker of the reply only if the reply and its sent
  message are one message; then the next write is in the same folder, and no SELECT
  comes between that could fail.
-/
namespace Mailroom.Scan

open Mailroom.Imap Mailroom.Mail Mailroom.Reply Mailroom.Thread Mailroom.Simulation

/-! ## §1. Writes. -/

/-- A session takes a folder to be selected only if it was selected last. -/
def Aligned (ss : Session) (tr : List Event) : Prop :=
  ∀ x, ss.selected = some x → selection tr = some x

theorem Aligned.concat {ss : Session} {tr : List Event} {ev : Event} (h : Aligned ss tr)
    (hev : selectionAfter (selection tr) ev = selection tr) : Aligned ss (tr ++ [ev]) := by
  intro x hx
  rw [selection_concat, hev]
  exact h x hx

theorem pages_concat_of_none {p : Int} {tr : List Event} {ev : Event} (h : pageIn p ev = none) :
    pages p (tr ++ [ev]) = pages p tr := by
  simp [pages, h]

/-- Between the writes of one outcome: where all writes so far include the marker of the
reply and one is left, that one is in the folder of the reply. -/
theorem folder_of_marker_mem {c : Category} {reply : Place} {sent : Option Place}
    {pre rest : List Write} {w : Write} (h : writesOf c reply sent = pre ++ w :: rest)
    (hm : ⟨reply.folder, reply.uid, classifiedFlag⟩ ∈ pre) : w.folder = reply.folder := by
  by_cases hsent : ∀ s ∈ sent, s.folder ≠ reply.folder
  · -- Then the marker is the last write of all, so nothing would be left.
    have hwhole := (writesOf_complete (h ▸ List.prefix_append _ _) hsent hm).1
    rw [h] at hwhole
    simp at hwhole
  · -- Otherwise all writes are in one folder.
    obtain ⟨s, hs, hfolder⟩ : ∃ s ∈ sent, s.folder = reply.folder := by
      simpa using hsent
    have hw : w ∈ writesOf c reply sent := by
      rw [h]
      simp
    rcases (mem_writesOf.1 hw).2 with hp | hp
    · exact congrArg Place.folder hp
    · rw [Option.mem_def.1 hs] at hp
      cases hp
      exact hfolder

section Writing

variable {σ : Type} {law : Law σ} {p : Int} {ss : Session} {tr : List Event} {s : σ}
  {ts : List Turn} {turn : Turn}

theorem tally_select {folder : String} {readonly : Bool} (hk : Aligned ss tr) :
    Upholds law (fun _ _ => True) (select folder readonly) (fun x ss' tr' _ =>
      turns tr' = turns tr ∧ pages p tr' = pages p tr ∧ match x with
      | .ok _ => ss'.selected = some (folder, readonly) ∧
          selection tr' = some (folder, readonly)
      | .error _ => ss.selected ≠ some (folder, readonly)) ss tr s := by
  unfold Imap.select
  refine Upholds.session_bind ?_
  split
  next h =>
    have hsel : ss.selected = some (folder, readonly) := by simpa using h
    exact Upholds.pure trivial ⟨rfl, rfl, hsel, hk _ hsel⟩
  next h =>
    refine Upholds.command_bind trivial (fun r s' items _ ha => ?_) fun r s' err _ _ => ?_
    · refine Upholds.update trivial ⟨turns_uncounted (c := .imap (.select _ _)) trivial r,
        pages_concat_of_none rfl, rfl, ?_⟩
      rw [selection_concat]
      simp [selectionAfter, ha, unquotedName_quotedName]
    · exact ⟨trivial, turns_uncounted (c := .imap (.select _ _)) trivial r,
        pages_concat_of_none rfl, by simpa using h⟩

/-- One write goes into the turn that is open.  If it fails, then at its SELECT, which
was not skipped, or at its STORE, which was not accepted. -/
theorem tally_setFlag {w : Write} (hflag : isFlag w.flag = true) (hk : Aligned ss tr)
    (hturns : turns tr = ts ++ [turn]) :
    Upholds law (fun _ _ => True) (setFlag w.folder w.uid w.flag) (fun x ss' tr' _ =>
      pages p tr' = pages p tr ∧ match x with
      | .ok _ => ss'.selected = some (w.folder, false) ∧ Aligned ss' tr' ∧
          turns tr' = ts ++ [turn.stored (confirmedStore w)]
      | .error _ => ss.selected ≠ some (w.folder, false) ∧ turns tr' = ts ++ [turn] ∨
          turns tr' = ts ++ [turn.stored { confirmedStore w with accepted := false }])
      ss tr s := by
  unfold Imap.setFlag store checkFlag
  rw [if_pos hflag]
  show Upholds law _ (Imap.select w.folder false >>= _) _ ss tr s
  refine Upholds.bind (tally_select (p := p) hk) (fun _ ss₁ tr₁ s₁ _ h => ?_)
    fun err ss₁ tr₁ s₁ _ h => ?_
  · obtain ⟨hturns₁, hpages₁, hselected, hsel⟩ := h
    rw [hturns] at hturns₁
    have hstored : ∀ r, pages p (tr₁ ++ [⟨.imap (.store w.uid .add w.flag), r⟩]) = pages p tr :=
      fun r => (pages_concat_of_none rfl).trans hpages₁
    refine Upholds.command_bind trivial (fun r s' items _ ha => ?_) fun r s' err _ ho => ?_
    · refine Upholds.pure trivial ⟨hstored r, hselected, fun x hx => ?_, ?_⟩
      · rw [selection_concat, ← hx, hselected]
        exact hsel
      · rw [turns_store hturns₁, hsel, ha]
        rfl
    · refine ⟨trivial, hstored r, .inr ?_⟩
      rw [turns_store hturns₁, hsel, accepted?_eq_none_of_outcome ho]
      rfl
  · -- The SELECT failed before anything was stored.
    obtain ⟨hturns₁, hpages₁, hselected⟩ := h
    exact ⟨hpages₁, .inl ⟨hselected, hturns₁.trans hturns⟩⟩

/-- The turn for the reply of an outcome, with some writes made so far. -/
def turnAfter (q : Question) (c : Category) (pre : List Write) : Turn where
  question := q
  category := c
  last := pre.getLast?.map confirmedStore

/-- **The writes of one outcome**, by induction on those that are left.  If they fail,
the STORE that came last is not the marker of the reply, accepted. -/
theorem tally_setFlags {q : Question} {c : Category} {reply : Place} {sent : Option Place}
    {pre rest : List Write} (hws : writesOf c reply sent = pre ++ rest)
    (hturns : turns tr = ts ++ [turnAfter q c pre])
    (hlast : ∀ v ∈ pre.getLast?, ss.selected = some (v.folder, false)) (hk : Aligned ss tr) :
    Upholds law (fun _ _ => True) (setFlags rest) (fun x ss' tr' _ =>
      pages p tr' = pages p tr ∧ match x with
      | .ok _ => Aligned ss' tr' ∧ turns tr' = ts ++ [turnAfter q c (writesOf c reply sent)]
      | .error _ => ∃ turn, turns tr' = ts ++ [turn] ∧
          turn.last ≠ some (confirmedStore ⟨reply.folder, reply.uid, classifiedFlag⟩))
      ss tr s := by
  induction rest generalizing pre ss tr s with
  | nil =>
    rw [List.append_nil] at hws
    exact Upholds.pure trivial ⟨rfl, hk, by rw [hws, hturns]⟩
  | cons w rest ih =>
    have hw : w ∈ writesOf c reply sent := by
      rw [hws]
      simp
    refine Upholds.bind (tally_setFlag (p := p) (isFlag_of_mem_writesOf hw) hk hturns)
      (fun _ ss₁ tr₁ s₁ _ h => ?_) fun err ss₁ tr₁ s₁ _ h => ?_
    · obtain ⟨hpages₁, hselected, hk₁, hturns₁⟩ := h
      have hpre : turns tr₁ = ts ++ [turnAfter q c (pre ++ [w])] := by
        rw [hturns₁]
        simp [turnAfter, Turn.stored]
      refine Upholds.mono (ih (by simpa using hws) hpre ?_ hk₁) fun x ss₂ tr₂ s₂ _ h => ?_
      · intro v hv
        rw [List.getLast?_concat] at hv
        cases hv
        exact hselected
      · exact ⟨h.1.trans hpages₁, h.2⟩
    · obtain ⟨hpages₁, ⟨hselected, hturns₁⟩ | hturns₁⟩ := h
      · refine ⟨hpages₁, _, hturns₁, fun heq => ?_⟩
        -- The marker would have been the last write, in the folder of this one.
        obtain ⟨v, hv, hconfirmed⟩ := Option.map_eq_some_iff.1 heq
        obtain rfl := confirmedStore_injective hconfirmed
        have hfolder := folder_of_marker_mem hws (List.mem_of_getLast? hv)
        have hskip := hlast _ hv
        rw [← hfolder] at hskip
        exact hselected hskip
      · refine ⟨hpages₁, _, hturns₁, fun heq => ?_⟩
        have haccepted := congrArg Storing.accepted (Option.some.inj heq)
        cases haccepted

end Writing

/-! ## §2. Tasks. -/

/-- Between two tasks: those that are done were settled, and the others are left. -/
structure Standing (e : Engine) (done : List (Task × Category)) (left : List Task)
    (tr : List Event) : Prop where
  tasks : tasksIn (pages e.transport.previewLength tr) = done.map Prod.fst ++ left
  turns : turns tr = done.map (doneTurn e.classifier)

section Tasks

variable {σ : Type} {law : Law σ} {e : Engine} {ss : Session} {tr : List Event} {s : σ}
  {done : List (Task × Category)} {left : List Task}

/-- One task: it is done and settled, or it fails and is not settled. -/
theorem tally_task {sf : String} {t : Task} (hst : Standing e done (t :: left) tr)
    (hk : Aligned ss tr) :
    Upholds law (fun _ _ => True) (t.run e.classifier sf) (fun x ss' tr' _ =>
      pages e.transport.previewLength tr' = pages e.transport.previewLength tr ∧ match x with
      | .ok c => Aligned ss' tr' ∧ Standing e (done ++ [(t, c)]) left tr'
      | .error _ => settledTasks e tr' = done) ss tr s := by
  unfold Task.run
  refine Upholds.ofProgram_bind (Q := fun x tr' _ =>
    pages e.transport.previewLength tr' = pages e.transport.previewLength tr ∧
    Aligned ss tr' ∧ match x with
      | .ok c => turns tr' = done.map (doneTurn e.classifier)
          ++ [turnAfter (t.question e.classifier) c []]
      | .error _ => turns tr' = done.map (doneTurn e.classifier)) ?_ ?_ ?_
  · rw [judge_run]
    refine ⟨trivial, fun r s' _ => ⟨trivial, pages_concat_of_none rfl, hk.concat rfl, ?_⟩⟩
    have hturns := turns_classify tr (t.question e.classifier) r
    rw [hst.turns, ← verdict_toOption t.reply.subject] at hturns
    cases hv : verdict t.reply.subject r with
    | ok c =>
      rw [hv] at hturns
      exact hturns
    | error f =>
      rw [hv] at hturns
      exact hturns.trans (List.append_nil _)
  · intro c tr₁ s₁ _ h
    obtain ⟨hpages₁, hk₁, hturns₁⟩ := h
    rw [writeOutcome_eq]
    refine Upholds.bind (tally_setFlags (p := e.transport.previewLength) (List.nil_append _).symm
      hturns₁ nofun hk₁) (fun _ ss₂ tr₂ s₂ _ h => ?_) fun f ss₂ tr₂ s₂ _ h => ?_
    · obtain ⟨hpages₂, hk₂, hturns₂⟩ := h
      refine Upholds.pure trivial ⟨hpages₂.trans hpages₁, hk₂, ?_, ?_⟩
      · rw [hpages₂, hpages₁, hst.tasks]
        simp
      · rw [hturns₂]
        simp [turnAfter, writesOf, doneTurn]
    · obtain ⟨hpages₂, turn, hturns₂, hopen⟩ := h
      have htasks : tasksIn (pages e.transport.previewLength tr₂)
          = done.map Prod.fst ++ t :: left := by
        rw [hpages₂, hpages₁, hst.tasks]
      exact ⟨hpages₂.trans hpages₁, settledTasks_eq_of_open htasks hturns₂ fun h => hopen h.2⟩
  · -- Without a judgement there is no turn for the task.
    intro f tr₁ s₁ _ h
    obtain ⟨hpages₁, -, hturns₁⟩ := h
    have htasks : tasksIn (pages e.transport.previewLength tr₁)
        = done.map Prod.fst ++ t :: left := by
      rw [hpages₁, hst.tasks]
    exact ⟨hpages₁, settledTasks_eq htasks hturns₁⟩

/-- **The work on tasks**, by induction on those that are left: what it counted is what
was settled, and without a failure that is all. -/
theorem tally_work {sf : String} {result : AccountResult} (hst : Standing e done left tr)
    (hk : Aligned ss tr) (hout : result.outcomes = done.map Prod.snd) :
    Upholds law (fun _ _ => True) (e.work sf result left) (fun x _ tr' _ => ∃ pr, x = .ok pr ∧
      pages e.transport.previewLength tr' = pages e.transport.previewLength tr ∧
      pr.result.outcomes = (settledTasks e tr').map Prod.snd ∧
      pr.result.matched = result.matched ∧ pr.result.unmatched = result.unmatched ∧
      (pr.failure = none → (settledTasks e tr').map Prod.fst
        = tasksIn (pages e.transport.previewLength tr'))) ss tr s := by
  induction left generalizing result done ss tr s with
  | nil =>
    have hsettled := settledTasks_eq hst.tasks hst.turns
    refine Upholds.pure trivial ⟨_, rfl, rfl, ?_, rfl, rfl, fun _ => ?_⟩
    · rw [hsettled, hout]
    · rw [hsettled, hst.tasks, List.append_nil]
  | cons t left ih =>
    unfold Engine.work
    refine Upholds.attempt_bind (tally_task hst hk) fun x ss₁ tr₁ s₁ _ h => ?_
    obtain ⟨hpages₁, h⟩ := h
    rcases x with f | c
    · refine Upholds.pure trivial ⟨_, rfl, hpages₁, ?_, rfl, rfl, fun hnone => ?_⟩
      · rw [h, hout]
      · cases hnone
    · refine Upholds.mono (ih h.2 h.1 ?_) fun x ss₂ tr₂ s₂ _ h => ?_
      · simp [AccountResult.record, hout]
      · obtain ⟨pr, rfl, hpages₂, hrest⟩ := h
        exact ⟨pr, rfl, hpages₂.trans hpages₁, hrest⟩

end Tasks

/-! ## §3. Accounts. -/

/-- What came of a scan agrees with the ledger. -/
structure Tallied (e : Engine) (pr : Progress) (tr : List Event) : Prop where
  outcomes : pr.result.outcomes = (settledTasks e tr).map Prod.snd
  bound : (settledTasks e tr).length ≤ pr.result.matched + pr.result.unmatched
  seen : pr.result.matched + pr.result.unmatched = 0 ∨
    pr.result.matched + pr.result.unmatched
      = (repliesIn (pages e.transport.previewLength tr)).length
  whole : pr.failure = none →
    (settledTasks e tr).length = pr.result.matched + pr.result.unmatched

/-- A scan that judged nothing counted nothing. -/
theorem Tallied.of_unjudged {e : Engine} {tr : List Event} {account : Json}
    {failure : Option Failure} (h : turns tr = []) :
    Tallied e { result := { account }, failure } tr where
  outcomes := by rw [settledTasks_eq_nil h]; rfl
  bound := by rw [settledTasks_eq_nil h]; exact Nat.zero_le _
  seen := .inl rfl
  whole _ := by rw [settledTasks_eq_nil h]; rfl

theorem Tallied.concat {e : Engine} {pr : Progress} {tr : List Event} (h : Tallied e pr tr)
    {ev : Event} (hpages : pageIn e.transport.previewLength ev = none)
    (hturns : turns (tr ++ [ev]) = turns tr) : Tallied e pr (tr ++ [ev]) := by
  have hsettled : settledTasks e (tr ++ [ev]) = settledTasks e tr := by
    unfold settledTasks
    rw [hturns, pages_concat_of_none hpages]
  constructor
  · rw [hsettled]
    exact h.outcomes
  · rw [hsettled]
    exact h.bound
  · rw [pages_concat_of_none hpages]
    exact h.seen
  · rw [hsettled]
    exact h.whole

section Account

variable {σ : Type} {law : Law σ} {e : Engine} {id : Int} {ss : Session} {tr : List Event} {s : σ}

/-- What asks for no judgement and stores nothing leaves the turns alone. -/
theorem keeps_turns {α : Type} {d : Dialogue α} {I : List Event → σ → Prop}
    {Q : α → List Event → σ → Prop} {K : Mailroom.Command → Prop} {ts : List Turn}
    (h : d.Keeps law I Q tr s) (hd : d.Poses K) (hclassify : ∀ q, ¬ K (.classify q))
    (hstore : ∀ uid change flag, ¬ K (.imap (.store uid change flag))) (hturns : turns tr = ts) :
    d.Keeps law (fun _ _ => True) (fun a tr s => turns tr = ts ∧ I tr s ∧ Q a tr s) tr s := by
  have hK : ∀ c, K c → Uncounted c := by
    intro c hc
    unfold Uncounted
    split
    · exact hclassify _ hc
    · exact hstore _ _ _ hc
    · trivial
  have hstep : ∀ tr s c r s', K c → law s c r s' → turns tr = ts →
      turns (tr ++ [⟨c, r⟩]) = ts :=
    fun _ _ _ r _ hc _ hts => (turns_uncounted (hK _ hc) r).trans hts
  have hposed : d.Keeps law I (fun a tr s => turns tr = ts ∧ I tr s ∧ Q a tr s) tr s :=
    (h.posed hd hstep hturns).mono fun a tr s hI hx => ⟨hx.2, hI, hx.1⟩
  exact hposed.weaken fun _ _ _ => trivial

/-- What a session reads goes as its conduct says, and leaves the turns alone. -/
theorem tally_reading {α : Type} {prog : SessionM α} {ok : α → Session → List Event → Prop}
    (h : Abides law e id prog ok ss tr s) (hd : Asks Reading prog) (hturns : turns tr = []) :
    Upholds law (fun _ _ => True) prog (fun x ss' tr' _ => turns tr' = [] ∧ match x with
      | .ok a => Obeyed (conduct e id) tr' ∧ ok a ss' tr'
      | .error _ => True) ss tr s := by
  refine (keeps_turns h (hd.poses ss) (fun _ => not_false) (fun _ _ _ => not_false) hturns).mono ?_
  intro last tr' s' _ hx
  obtain ⟨x | a, ss'⟩ := last
  · exact ⟨hx.1, trivial⟩
  · exact hx

/-- **The scan of a session** that starts before any page was shown. -/
theorem tally_session {account : Json} (hO : Obeyed (conduct e id) tr)
    (hk : Knows e.transport.previewLength ss tr)
    (hnone : pages e.transport.previewLength tr = []) (hunjudged : judgements tr = [])
    (hturns : turns tr = []) :
    Upholds law (fun _ _ => True) (e.scanSession { account }) (fun x _ tr' _ => match x with
      | .ok pr => Tallied e pr tr'
      | .error _ => turns tr' = []) ss tr s := by
  unfold Engine.scanSession Engine.newReplies
  rw [bind_assoc]
  refine Upholds.bind (tally_reading (Abides.fetchUnclassified hO hk ⟨hunjudged, .inl ⟨hnone, rfl⟩⟩)
    (Asks.fetchUnclassified _ _) hturns) (fun ms ss₁ tr₁ s₁ _ h => ?_) fun f ss₁ tr₁ s₁ _ h => h.1
  obtain ⟨hturns₁, hO₁, hk₁, shown, hshown, hon₁⟩ := h
  rw [pure_bind]
  split
  next hempty => exact Upholds.pure trivial (.of_unjudged hturns₁)
  next hsome =>
    -- Nothing was fetched only where nothing was found.
    obtain rfl : shown = [ms] := by
      refine hshown.resolve_right fun h => hsome ?_
      rw [h.2]
      rfl
    have hpages₁ : pages e.transport.previewLength tr₁ = [ms] := by simp [hon₁.pages, hnone]
    unfold Engine.sentMessages
    rw [bind_assoc]
    refine Upholds.bind (tally_reading (Abides.resolveSent hO₁ hk₁) (Asks.resolve sent) hturns₁)
      (fun folder ss₂ tr₂ s₂ _ h => ?_) fun f ss₂ tr₂ s₂ _ h => h.1
    obtain ⟨hturns₂, hO₂, hk₂, hfolder, hon₂⟩ := h
    have hpages₂ : pages e.transport.previewLength tr₂ = [ms] := by rw [hon₂.pages_eq, hpages₁]
    have hunjudged₂ : judgements tr₂ = [] := by
      simp [hon₂.judgements, hon₁.judgements, hunjudged]
    rw [bind_assoc]
    refine Upholds.bind (tally_reading (Abides.fetchFirstPage hO₂ hk₂
      ⟨hunjudged₂, .inr ⟨by simp [hpages₂], hfolder⟩⟩) (Asks.fetchPage _ _ _) hturns₂)
      (fun page ss₃ tr₃ s₃ _ h => ?_) fun f ss₃ tr₃ s₃ _ h => h.1
    obtain ⟨hturns₃, hO₃, hk₃, shown₂, hshown₂, hon₃⟩ := h
    rw [pure_bind]
    have hpages₃ : pages e.transport.previewLength tr₃ = [ms] ++ shown₂ := by
      rw [hon₃.pages, hpages₂]
    have hpage : ([ms] ++ shown₂).getD 1 [] = page.messages := by
      rcases hshown₂ with rfl | ⟨rfl, h⟩
      · rfl
      · exact h.symm
    have htasks : tasksIn (pages e.transport.previewLength tr₃)
        = tasksOf (selected unclassified ms)
          (matching (selected unclassified ms) page.messages) := by
      rw [hpages₃, tasksIn, matchingIn, hpage]
      rfl
    have hreplies : repliesIn (pages e.transport.previewLength tr₃) = selected unclassified ms := by
      rw [hpages₃]
      rfl
    have hst : Standing e [] (tasksOf (selected unclassified ms)
        (matching (selected unclassified ms) page.messages)) tr₃ := ⟨htasks, hturns₃⟩
    refine Upholds.mono (tally_work hst hk₃.selected rfl) fun x ss₄ tr₄ s₄ _ h => ?_
    obtain ⟨pr, rfl, hpages₄, houtcomes, hmatched, hunmatched, hwhole⟩ := h
    have hlength : (tasksIn (pages e.transport.previewLength tr₄)).length
        = pr.result.matched + pr.result.unmatched := by
      rw [hpages₄, htasks, length_tasksOf, hmatched, hunmatched]
    refine ⟨houtcomes, hlength ▸ length_settledTasks_le e tr₄, .inr ?_, fun hnofail => ?_⟩
    · rw [hpages₄, hreplies, hmatched, hunmatched]
      exact length_matching _ _
    · rw [← hlength, ← hwhole hnofail, List.length_map]

/-- Leaving a session is one more event, and a failure of it ends more than the account. -/
theorem tally_close : Upholds law (fun _ _ => True) close (fun x _ tr' _ =>
    (∃ r, tr' = tr ++ [⟨.imap .logout, r⟩]) ∧ ∀ f, x = .error f → f.endsAccount = false)
    ss tr s := by
  unfold close
  refine Upholds.ask_bind trivial fun r s₁ _ => Upholds.update_bind ?_
  match r with
  | .ok r => exact Upholds.pure trivial ⟨⟨_, rfl⟩, nofun⟩
  | .error (.connection reason) => exact Upholds.pure trivial ⟨⟨_, rfl⟩, nofun⟩
  | .error (.foreign reason) =>
    refine Upholds.throw trivial ⟨⟨_, rfl⟩, fun f hf => ?_⟩
    cases hf
    rfl

/-- What came of a scan that may have failed as a whole agrees with the ledger: then nothing
was judged, unless the failure ends more than the account. -/
def Balanced (e : Engine) (tr : List Event) : Except Failure Progress → Prop
  | .ok pr => Tallied e pr tr
  | .error f => f.endsAccount = true → turns tr = []

/-- The session of an account, from its opening to its end. -/
theorem tally_within {m : Directory.Mailbox} {account : Json} (hO : Obeyed (conduct e id) tr)
    (hm : Described tr m) (hnew : ¬ Connected tr ∧ ¬ Listed tr)
    (hnone : pages e.transport.previewLength tr = []) (hunjudged : judgements tr = [])
    (hturns : turns tr = []) :
    (e.transport.within m (e.scanSession { account })).run.Keeps law (fun _ _ => True)
      (fun x tr' _ => Balanced e tr' x) tr s := by
  unfold Transport.within
  refine keeps_program_bind (keeps_turns (abides_start hO hm hnew) (poses_start _ _)
    (fun _ => not_false) (fun _ _ _ => not_false) hturns) (fun ss tr₁ s₁ _ h => ?_)
    fun f tr₁ s₁ _ h _ => h.1
  obtain ⟨hturns₁, hO₁, hon₁, hk⟩ := h
  have hnone₁ : pages e.transport.previewLength tr₁ = [] := by rw [hon₁.pages_eq, hnone]
  have hunjudged₁ : judgements tr₁ = [] := by simp [hon₁.judgements, hunjudged]
  refine keeps_lift_bind (Dialogue.Keeps.mono (tally_session hO₁ hk hnone₁ hunjudged₁ hturns₁) ?_)
  intro last tr₂ s₂ _ hx
  obtain ⟨x, ss₂⟩ := last
  refine keeps_lift_bind (Dialogue.Keeps.mono tally_close ?_)
  -- The session is left whatever its outcome was; a failure of that counts for both.
  intro last tr₃ s₃ _ h
  obtain ⟨closed, ss₃⟩ := last
  obtain ⟨⟨r, rfl⟩, hclosed⟩ := h
  have hturns₃ : turns (tr₂ ++ [⟨.imap .logout, r⟩]) = turns tr₂ :=
    turns_uncounted (c := .imap .logout) trivial r
  rcases closed with f | _
  · refine ⟨trivial, fun hends => ?_⟩
    rw [hclosed f rfl] at hends
    cases hends
  · rcases x with f | pr
    · exact ⟨trivial, fun _ => hturns₃.trans hx⟩
    · exact ⟨trivial, Tallied.concat hx rfl hturns₃⟩

/-- **The scan of an account** agrees with its ledger, unless its failure ends more than
the account. -/
theorem scanEntry_tally (e : Engine) (entry : Directory.Entry) (s : σ) :
    (e.scanEntry entry).Keeps law (fun _ _ => True) (fun pr tr _ =>
      (∀ f, pr.failure = some f → f.endsAccount = true) → Tallied e pr tr) [] s := by
  have hO : Obeyed (conduct e entry.id) [] := .nil _
  have hnew : ¬ Connected [] ∧ ¬ Listed [] := by simp [Connected, Listed]
  unfold Engine.scanEntry
  refine Dialogue.Keeps.bind (Dialogue.Keeps.mono (Q := fun x tr _ => Balanced e tr x) ?_ ?_)
  · refine keeps_program_bind (keeps_turns (abides_mailbox hO hnew) (poses_mailbox _ _)
      (fun _ => not_false) (fun _ _ _ => not_false) rfl) (fun m tr₁ s₁ _ h => ?_)
      fun f tr₁ s₁ _ h _ => h.1
    obtain ⟨hturns₁, hO₁, hon₁, hnew₁, hm⟩ := h
    exact tally_within hO₁ hm hnew₁ hon₁.pages_eq hon₁.judgements hturns₁
  · intro x tr s _ hx
    rcases x with f | pr
    · exact ⟨trivial, fun hends => .of_unjudged (hx (hends f rfl))⟩
    · exact ⟨trivial, fun _ => hx⟩

end Account

/-! ## §4. Reports. -/

/-- **The result of an account tells the truth about its events.**  Each count is the
number of replies for which the classifier stated the category and whose marker was the
last STORE, accepted; the replies paired and not paired are none, or all that were
fetched unclassified, and without an error all of them were counted. -/
structure Truthful (e : Engine) (tr : List Event) (r : AccountResult) : Prop where
  counts : ∀ c, r.count c = ((settledTasks e tr).map Prod.snd).count c
  total : r.total = (settledTasks e tr).length
  bound : r.total ≤ r.matched + r.unmatched
  seen : r.matched + r.unmatched = 0 ∨
    r.matched + r.unmatched = (repliesIn (pages e.transport.previewLength tr)).length
  whole : r.error = none → r.total = r.matched + r.unmatched

section Reports

variable {σ : Type} {law : Law σ} {e : Engine}

theorem Visit.Reports.truthful {v : Visit σ} {r : AccountResult} (h : v.Reports r)
    (hrun : Dialogue.Reaches law (e.scanEntry v.entry) v.before v.events v.rest v.after) :
    r.outcomes = (settledTasks e v.events).map Prod.snd ∧ Truthful e v.events r := by
  obtain ⟨pr, hrest, hends, -, houtcomes, hmatched, hunmatched, herror⟩ := h
  rw [hrest] at hrun
  have htally := ((scanEntry_tally e v.entry v.before).ends hrun) hends
  rw [List.nil_append] at htally
  have hout : r.outcomes = (settledTasks e v.events).map Prod.snd := houtcomes.trans htally.outcomes
  have htotal : r.total = (settledTasks e v.events).length := by
    rw [AccountResult.total, hout, List.length_map]
  refine ⟨hout, fun c => by rw [AccountResult.count, hout], htotal, ?_, ?_, fun hnone => ?_⟩
  · rw [htotal, hmatched, hunmatched]
    exact htally.bound
  · rw [hmatched, hunmatched]
    exact htally.seen
  · rw [htotal, hmatched, hunmatched]
    exact htally.whole (Option.map_eq_none_iff.1 (herror.symm.trans hnone))

/-- The replies settled in some visits. -/
def settledOver (e : Engine) (vs : List (Visit σ)) : List (Task × Category) :=
  vs.flatMap fun v => settledTasks e v.events

/-- The numbers of a summary are sums over the results, and so over the visits. -/
theorem summary_eq {vs : List (Visit σ)} {results : List AccountResult}
    (h : List.Forall₂ (fun v r => r.outcomes = (settledTasks e v.events).map Prod.snd) vs results) :
    summary results
      = Category.all.map (fun c => (c.name, ((settledOver e vs).map Prod.snd).count c))
        ++ [("total", (settledOver e vs).length)] := by
  have hsums : (∀ c, countOver results c = ((settledOver e vs).map Prod.snd).count c) ∧
      totalOver results = (settledOver e vs).length := by
    induction h with
    | nil => exact ⟨fun _ => rfl, rfl⟩
    | @cons v r vs results hr _ ih =>
      have hcons : settledOver e (v :: vs) = settledTasks e v.events ++ settledOver e vs := rfl
      refine ⟨fun c => ?_, ?_⟩
      · rw [hcons, List.map_append, List.count_append, ← ih.1 c, ← hr]
        rfl
      · rw [hcons, List.length_append, ← ih.2, ← List.length_map (f := Prod.snd), ← hr]
        rfl
  unfold summary
  rw [hsums.2]
  congr 1
  exact List.map_congr_left fun c _ => by rw [hsums.1 c]

/-- **The report of a scan tells the truth**, whatever the world answers.  The scan
visited the chosen accounts in their order; the result of each tells what the events of
its visit show, also where the visit failed, and the summary counts per category, and in
total, the replies settled over all accounts. -/
theorem report_truthful {address : Option String} {s t : σ} {tr : List Event} {report : Report}
    (hrun : Dialogue.Ends law (e.run address).run s tr (.ok report) t) :
    ∃ tr₁ scanId start entries s₁ vs s₂ tr₂,
      Dialogue.Ends law (e.opening address).run s tr₁ (.ok (scanId, start, entries)) s₁ ∧
      Rounds law e s₁ vs s₂ ∧ tr = tr₁ ++ vs.flatMap Visit.events ++ tr₂ ∧
      vs.map Visit.entry = entries ∧
      List.Forall₂ (fun v r => r.account = v.entry.email ∧ Truthful e v.events r)
        vs report.results ∧
      summary report.results
        = Category.all.map (fun c => (c.name, ((settledOver e vs).map Prod.snd).count c))
          ++ [("total", (settledOver e vs).length)] := by
  rcases run_ends hrun with ⟨f, hx, -⟩ |
    ⟨tr₁, scanId, start, entries, s₁, vs, s₂, tr₂, hopening, hvs, htr, hx⟩
  · cases hx
  · obtain ⟨report', hreport, hentries, hall⟩ := hx.resolve_right fun ⟨_, _, hx, _⟩ => nomatch hx
    cases hreport
    have hvisits := (List.forall₂_and_left vs report.results).2 ⟨fun v hv => hvs.reaches hv, hall⟩
    refine ⟨tr₁, scanId, start, entries, s₁, vs, s₂, tr₂, hopening, hvs, htr, hentries, ?_, ?_⟩
    · refine hvisits.imp fun v r h => ⟨?_, (h.2.truthful h.1).2⟩
      obtain ⟨_, _, _, haccount, _⟩ := h.2
      exact haccount
    · exact summary_eq (hvisits.imp fun v r h => (h.2.truthful h.1).1)

end Reports

namespace Sample

/-- Two accounts of which the second can be scanned, with a reply that is judged. -/
def judgedFleet : World := { fleet with judgements := [answering "interested"] }

end Sample

open Sample in
theorem report_truthful_sample :
    ∃ (report : Report) (vs : List (Visit World)),
      ((engine.run none).run.run World.answer judgedFleet).1 = .ok report ∧
      List.Forall₂ (fun v r => r.account = v.entry.email ∧ Truthful engine v.events r)
        vs report.results ∧
      (settledOver engine vs).length = 1 ∧
      report.results.map (fun r => (r.total, r.matched + r.unmatched, r.error.isSome))
        = [(0, 0, true), (1, 1, false)] := by
  have hresults : ((engine.run none).run.run World.answer judgedFleet).1.toOption.map (fun r =>
      (r.results.map fun r => (r.total, r.matched + r.unmatched, r.error.isSome),
        totalOver r.results))
        = some ([(0, 0, true), (1, 1, false)], 1) := by
    decide +kernel
  cases hx : ((engine.run none).run.run World.answer judgedFleet).1 with
  | error f =>
    rw [hx] at hresults
    cases hresults
  | ok report =>
    rw [hx] at hresults
    obtain ⟨hrows, htotal⟩ := Prod.mk.inj (Option.some.inj hresults)
    have hrun := Dialogue.ends_lawOf World.answer (engine.run none).run judgedFleet
    rw [hx] at hrun
    obtain ⟨_, _, _, _, _, vs, _, _, -, -, -, -, htruthful, hsummary⟩ := report_truthful hrun
    refine ⟨report, vs, rfl, htruthful, ?_, hrows⟩
    -- The last line of the summary is the total.
    have hlast := congrArg List.getLast? hsummary
    simp only [summary, List.getLast?_concat, htotal] at hlast
    exact (Prod.mk.inj (Option.some.inj hlast)).2.symm

end Mailroom.Scan
