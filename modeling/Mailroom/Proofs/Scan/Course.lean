import Mailroom.Proofs.Reply.Judgement
import Mailroom.Proofs.Scan.Plan
/-!
  Mailroom.Proofs.Scan.Course
  ────────────────────────────────
  **THE COURSE OF THE SCAN OF ONE MAILBOX.**

  From the pages that a scan was shown follow its tasks.  At any moment some of
  them were judged, in their order, and a start of the plan for these was written:
  all of it but for the last outcome, which may be half done.  This is `Course`; it
  holds at every moment of every scan, whatever fails, and `Ended` says what the
  result of the scan makes of it.
-/
namespace Mailroom.Scan

open Mailroom.Imap Mailroom.Mail Mailroom.Reply Mailroom.Thread

/-! ## §1. Tasks and judgements. -/

/-- The replies to be classified, when some pages were shown. -/
def repliesIn (pages : List (List Message)) : List Message :=
  selected unclassified (pages.getD 0 [])

/-- The replies and the sent messages that they answer, when some pages were shown. -/
def matchingIn (pages : List (List Message)) : Matching :=
  matching (repliesIn pages) (pages.getD 1 [])

/-- The tasks, when some pages were shown. -/
def tasksIn (pages : List (List Message)) : List Task :=
  tasksOf (repliesIn pages) (matchingIn pages)

/-- The question about the reply of a task. -/
def Task.question (t : Task) (classifier : Classifier) : Question :=
  classifier.question t.reply.subject t.reply.preview

/-- The classifier may state a category in answer to a question. -/
def States (g : Regime) (q : Question) (c : Category) : Prop :=
  ∃ r, g.judges q r ∧ categoryIn r = some c

/-! ## §2. Courses. -/

/-- The pages show the newest unclassified messages of the inbox and the newest sent
messages, as they were when the scan started. -/
structure Seen (e : Engine) (g : Regime) (s₀ : Site) (pages : List (List Message)) : Prop where
  inbound : Recent e.transport.previewLength g.honest e.inboxLimit (.unkeyword classifiedFlag)
    (s₀.folders inbox) (pages.getD 0 [])
  outbound : Recent e.transport.previewLength g.honest (max 1 e.sentLimit) .all
    (s₀.folders g.sent) (pages.getD 1 [])

/-- Where the scan of a mailbox stands that started with the server in `s₀`: the
tasks that were judged, the writes that took effect, and those confirmed. -/
structure Course (e : Engine) (g : Regime) (s₀ : Site) (judged : List (Task × Category))
    (written confirmed : List Write) (μ : Moment) : Prop where
  seen : judged ≠ [] → Seen e g s₀ μ.pages
  tasks : judged.map Prod.fst <+: tasksIn μ.pages
  judgements : μ.judgements = judged.map fun x => (x.1.question e.classifier, x.2)
  stated : ∀ x ∈ judged, States g (x.1.question e.classifier) x.2
  folders : μ.folders = s₀.folders.writeAll written
  journal : μ.journal = s₀.journal ++ confirmed
  begun : written <+: plan g.sent judged
  settled : plan g.sent judged.dropLast <+: confirmed
  confirms : Confirmed g written confirmed

/-- The moments of a scan. -/
def OnCourse (e : Engine) (g : Regime) (s₀ : Site) (μ : Moment) : Prop :=
  ∃ judged written confirmed, Course e g s₀ judged written confirmed μ

/-- The end of a scan, with the tasks whose outcome was counted: they are all that
were judged, or the outcome of the last one was not confirmed to the end. -/
structure Ended (e : Engine) (g : Regime) (s₀ : Site) (judged : List (Task × Category))
    (written confirmed : List Write) (counted : List (Task × Category)) (μ : Moment)
    (pr : Progress) : Prop extends Course e g s₀ judged written confirmed μ where
  outcomes : pr.result.outcomes = counted.map Prod.snd
  counts : judged = counted ∧ confirmed = plan g.sent judged ∨
    pr.failure.isSome ∧ confirmed.length < (plan g.sent judged).length ∧
      ∃ x, judged = counted ++ [x]
  complete : pr.failure = none → judged.map Prod.fst = tasksIn μ.pages ∧
    Recent e.transport.previewLength g.honest e.inboxLimit (.unkeyword classifiedFlag)
      (s₀.folders inbox) (μ.pages.getD 0 [])
  numbers : pr.result.matched = (matchingIn μ.pages).found.length ∧
      pr.result.unmatched = (matchingIn μ.pages).unmatched.length ∨
    pr.failure.isSome ∧ judged = [] ∧ pr.result.matched = 0 ∧ pr.result.unmatched = 0

/-- The result of a scan at its end. -/
def EndsCourse (e : Engine) (g : Regime) (s₀ : Site) (tr : List Event) (s : Site)
    (pr : Progress) : Prop :=
  (∃ judged written confirmed counted, Ended e g s₀ judged written confirmed counted
    (moment e.transport.previewLength tr s) pr) ∧
  (pr.failure.isSome → Trouble e.transport.previewLength tr ∨ e.directory.maxRetries < 0)

/-- The end of a scan that has a result, or failed before it had one. -/
def EndsScan (e : Engine) (g : Regime) (s₀ : Site) (account : Json) :
    Except Failure Progress → List Event → Site → Prop
  | .ok pr, tr, s => EndsCourse e g s₀ tr s pr
  | .error f, tr, s => EndsCourse e g s₀ tr s { result := { account }, failure := some f }

/-- A scan that wrote nothing so far is on course. -/
theorem Course.start {e : Engine} {g : Regime} {s₀ : Site} {μ : Moment}
    (hfolders : μ.folders = s₀.folders) (hjournal : μ.journal = s₀.journal)
    (hjudgements : μ.judgements = []) : Course e g s₀ [] [] [] μ where
  seen h := absurd rfl h
  tasks := List.nil_prefix
  judgements := hjudgements
  stated := by simp
  folders := hfolders
  journal := by simp [hjournal]
  begun := List.nil_prefix
  settled := List.nil_prefix
  confirms := .inl rfl

variable {e : Engine} {g : Regime} {s₀ : Site} {μ : Moment} {done : List (Task × Category)}

/-- One more task is judged, when all outcomes so far were written, and the writing
of its outcome begins. -/
theorem Course.judge (h : Course e g s₀ done (plan g.sent done) (plan g.sent done) μ)
    (hseen : Seen e g s₀ μ.pages) {t : Task} {c : Category}
    (ht : done.map Prod.fst ++ [t] <+: tasksIn μ.pages)
    (hc : States g (t.question e.classifier) c) {written confirmed : List Write}
    (hw : written <+: t.writes g.sent c) (hconfirms : Confirmed g written confirmed) :
    Course e g s₀ (done ++ [(t, c)]) (plan g.sent done ++ written) (plan g.sent done ++ confirmed)
      ({ μ with judgements := μ.judgements ++ [(t.question e.classifier, c)] }.wrote
        written confirmed) where
  seen _ := hseen
  tasks := by
    rw [List.map_append]
    exact ht
  judgements := by simp [Moment.wrote, h.judgements]
  stated := by
    intro x hx
    rcases List.mem_append.1 hx with hx | hx
    · exact h.stated x hx
    · rw [List.mem_singleton.1 hx]
      exact hc
  folders := by simp [Moment.wrote, h.folders, Folders.writeAll_append]
  journal := by simp [Moment.wrote, h.journal]
  begun := by
    rw [plan_append]
    refine (List.prefix_append_right_inj _).2 ?_
    simpa [plan] using hw
  settled := by
    rw [List.dropLast_concat]
    exact List.prefix_append _ _
  confirms := hconfirms.append _

/-! ## §3. Working through tasks. -/

theorem verdict_toOption (subject : String) (r : Except String (List Block)) :
    (verdict subject r).toOption = categoryIn r := by
  rcases r with reason | blocks
  · rfl
  · unfold verdict categoryIn
    cases h : Category.ofBlocks blocks <;> simp only [h] <;> rfl

namespace Holds

variable {p : Int} {J : Moment → Prop} {ss : Session} {tr : List Event} {s : Site}

/-- A question to the classifier adds its judgement, if it states a category. -/
theorem judge {classifier : Classifier} {subject preview : String} (hμ : moment p tr s = μ)
    (hl : Linked p ss tr s) (hJ : J μ)
    (hjudged : ∀ c, States g (classifier.question subject preview) c →
      J { μ with judgements := μ.judgements ++ [(classifier.question subject preview, c)] }) :
    (classifier.judge subject preview).run.Keeps g.law (fun tr s => J (moment p tr s))
      (fun x tr' s' => match x with
        | .ok c => moment p tr' s' = { μ with
              judgements := μ.judgements ++ [(classifier.question subject preview, c)] } ∧
            Linked p ss tr' s' ∧ States g (classifier.question subject preview) c
        | .error _ => moment p tr' s' = μ ∧ Trouble p tr') tr s := by
  subst hμ
  rw [judge_run]
  refine ⟨hJ, ?_⟩
  intro r s' h
  obtain ⟨hr, rfl⟩ := h
  -- The event brings one judgement or none, as the answer states a category or not.
  have hm : moment p (tr ++ [⟨.classify (classifier.question subject preview), r⟩]) s'
      = { moment p tr s' with judgements := (moment p tr s').judgements
        ++ ((categoryIn r).map (classifier.question subject preview, ·)).toList } := by
    rw [moment_concat]
    simp [moment, pageIn, judgementIn]
  rw [← verdict_toOption subject] at hm
  show J _ ∧ _
  -- Only an answer that states a category adds a judgement.
  cases hv : verdict subject r with
  | error e =>
    have hnone : categoryIn r = none := by rw [← verdict_toOption subject, hv]; rfl
    rw [hv] at hm
    have hsame : moment p (tr ++ [⟨.classify (classifier.question subject preview), r⟩]) s'
        = moment p tr s' := by rw [hm]; simp [Except.toOption]
    exact ⟨hsame ▸ hJ, hsame, Trouble.last (by simp [Smooth, hnone])⟩
  | ok c =>
    have hstates : States g (classifier.question subject preview) c :=
      ⟨r, hr, by rw [← verdict_toOption subject, hv]; rfl⟩
    rw [hv] at hm
    exact ⟨hm ▸ hjudged c hstates, hm, hl.concat _, hstates⟩

/-- One task: it is judged, and then its outcome is written. -/
theorem taskRun {classifier : Classifier} {sf : String} {t : Task} (hμ : moment p tr s = μ)
    (hl : Linked p ss tr s) (hJ : J μ)
    (hjudged : ∀ c written confirmed, States g (t.question classifier) c →
      written <+: t.writes sf c → Confirmed g written confirmed →
      J ({ μ with judgements := μ.judgements ++ [(t.question classifier, c)] }.wrote
        written confirmed)) :
    Holds g p J (t.run classifier sf) (fun x ss' tr' s' => match x with
      | .ok c => States g (t.question classifier) c ∧ Linked p ss' tr' s' ∧
          moment p tr' s' = { μ with
            judgements := μ.judgements ++ [(t.question classifier, c)] }.wrote
              (t.writes sf c) (t.writes sf c)
      | .error _ => (moment p tr' s' = μ ∨ ∃ c written confirmed,
          States g (t.question classifier) c ∧ written <+: t.writes sf c ∧
          Confirmed g written confirmed ∧ confirmed.length < (t.writes sf c).length ∧
          moment p tr' s' = { μ with
            judgements := μ.judgements ++ [(t.question classifier, c)] }.wrote
              written confirmed) ∧ Trouble p tr') ss tr s := by
  unfold Task.run
  refine ofProgram_bind (judge hμ hl hJ fun c hc => ?_) ?_ fun e tr s _ h => ⟨.inl h.1, h.2⟩
  · have h := hjudged c [] [] hc List.nil_prefix (.inl rfl)
    rwa [Moment.wrote_nil] at h
  · intro c tr₁ s₁ _ h
    obtain ⟨hμ₁, hl₁, hc⟩ := h
    rw [writeOutcome_eq]
    refine bind (setFlags hμ₁ hl₁ (fun w hw => isFlag_of_mem_writesOf hw) ?_) ?_ ?_
    · exact fun written confirmed hw hcon => hjudged c written confirmed hc hw hcon
    · intro _ ss₂ tr₂ s₂ hJ₂ h
      obtain ⟨hμ₂, hl₂⟩ := h
      exact pure hJ₂ ⟨hc, hl₂, hμ₂⟩
    · intro e ss₂ tr₂ s₂ _ h
      obtain ⟨⟨written, confirmed, hμ₂, hw, hcon, hlt⟩, ht⟩ := h
      exact ⟨.inr ⟨c, written, confirmed, hc, hw, hcon, hlt, hμ₂⟩, ht⟩

/-- **The work on tasks stays on course**, by induction on the tasks that are left. -/
theorem work (done : List (Task × Category)) {ts : List Task} {result : AccountResult}
    (hp : p = e.transport.previewLength) (hl : Linked p ss tr s)
    (hc : Course e g s₀ done (plan g.sent done) (plan g.sent done) (moment p tr s))
    (hseen : Seen e g s₀ (moment p tr s).pages)
    (hts : done.map Prod.fst ++ ts = tasksIn (moment p tr s).pages)
    (hdone : result.outcomes = done.map Prod.snd)
    (hpaired : result.matched = (matchingIn (moment p tr s).pages).found.length ∧
      result.unmatched = (matchingIn (moment p tr s).pages).unmatched.length) :
    Holds g p (OnCourse e g s₀) (e.work g.sent result ts) (fun x _ tr' s' =>
      ∃ pr, x = .ok pr ∧ EndsCourse e g s₀ tr' s' pr) ss tr s := by
  subst hp
  induction ts generalizing done result ss tr s with
  | nil =>
    rw [List.append_nil] at hts
    refine pure ⟨_, _, _, hc⟩ ⟨_, rfl, ⟨done, _, _, done, hc, hdone, .inl ⟨rfl, rfl⟩, ?_, ?_⟩, ?_⟩
    · exact fun _ => ⟨hts, hseen.inbound⟩
    · exact .inl hpaired
    · simp
  | cons t ts ih =>
    have hinitial : done.map Prod.fst ++ [t]
        <+: tasksIn (moment e.transport.previewLength tr s).pages :=
      ⟨ts, by rw [← hts]; simp⟩
    unfold Engine.work
    refine attempt_bind (taskRun rfl hl ⟨_, _, _, hc⟩ fun c written confirmed hst hw hcon =>
      ⟨_, _, _, hc.judge hseen hinitial hst hw hcon⟩) ?_
    intro x ss₁ tr₁ s₁ hJ₁ h
    -- The task fails before its judgement, or in the middle of its writes; or it is done.
    rcases x with f | c
    · obtain ⟨hμ | ⟨c, written, confirmed, hst, hw, hcon, hlt, hμ⟩, ht⟩ := h
      · rw [← hμ] at hc hpaired
        exact pure hJ₁ ⟨_, rfl, ⟨done, _, _, done, hc, hdone, .inl ⟨rfl, rfl⟩, nofun,
          .inl hpaired⟩, fun _ => .inl ht⟩
      · have hjudged := hc.judge hseen hinitial hst hw hcon
        have hpages : (moment e.transport.previewLength tr s).pages
            = (moment e.transport.previewLength tr₁ s₁).pages := by rw [hμ]; rfl
        rw [hpages] at hpaired
        rw [← hμ] at hjudged
        have hlt' : (plan g.sent done ++ confirmed).length
            < (plan g.sent (done ++ [(t, c)])).length := by
          rw [plan_append]
          simpa [plan] using hlt
        exact pure hJ₁ ⟨_, rfl, ⟨_, _, _, done, hjudged, hdone, .inr ⟨rfl, hlt', _, rfl⟩, nofun,
          .inl hpaired⟩, fun _ => .inl ht⟩
    · obtain ⟨hst, hl₁, hμ⟩ := h
      have hjudged := hc.judge hseen hinitial hst List.prefix_rfl (.inl rfl)
      have hpages : (moment e.transport.previewLength tr s).pages
          = (moment e.transport.previewLength tr₁ s₁).pages := by rw [hμ]; rfl
      -- The task is done, so the invariant holds with one more task in `done`.
      have hplan : plan g.sent done ++ t.writes g.sent c = plan g.sent (done ++ [(t, c)]) := by
        rw [plan_append]
        simp [plan]
      rw [← hμ, hplan] at hjudged
      rw [hpages] at hts hpaired hseen
      have hdone' : (result.record c).outcomes = (done ++ [(t, c)]).map Prod.snd := by
        simp [AccountResult.record, hdone]
      exact ih _ hdone' hl₁ hjudged hseen (by rw [← hts]; simp) hpaired

/-! ## §4. A session. -/

theorem newReplies (hμ : moment p tr s = μ) (hJ : J μ)
    (hl : Linked p ss tr s)
    (hpage : ∀ ms, Recent p g.honest e.inboxLimit (.unkeyword classifiedFlag) (μ.folders inbox) ms →
      J { μ with pages := μ.pages ++ [ms] }) :
    Holds g p J e.newReplies (fun x ss' tr' s' => match x with
      | .ok replies => ∃ ms, replies = selected unclassified ms ∧
          Reads g p μ inbox e.inboxLimit (.unkeyword classifiedFlag) id ss.sentFolder
            (.ok ms) ss' tr' s'
      | .error _ => moment p tr' s' = μ ∧ Trouble p tr') ss tr s := by
  unfold Engine.newReplies
  refine bind (fetchUnclassified hμ hJ hl hpage) ?_ fun f ss tr s _ h => h
  intro ms ss₁ tr₁ s₁ hJ₁ h
  exact pure hJ₁ ⟨ms, rfl, h⟩

theorem sentMessages (hμ : moment p tr s = μ) (hJ : J μ) (hl : Linked p ss tr s)
    (hnew : ss.sentFolder = none)
    (hpage : ∀ ms, Recent p g.honest (max 1 e.sentLimit) .all (μ.folders g.sent) ms →
      J { μ with pages := μ.pages ++ [ms] }) :
    Holds g p J e.sentMessages (fun x ss' tr' s' => match x with
      | .ok (folder, ms) => folder = g.sent ∧ ∃ shown, Paged shown ms ∧ Linked p ss' tr' s' ∧
          moment p tr' s' = { μ with pages := μ.pages ++ shown } ∧
          Recent p g.honest (max 1 e.sentLimit) .all (μ.folders g.sent) ms
      | .error _ => moment p tr' s' = μ ∧ Trouble p tr') ss tr s := by
  unfold Engine.sentMessages
  refine bind (resolveSent hμ hJ hl hnew) ?_ fun f ss tr s _ h => h
  intro folder ss₁ tr₁ s₁ _ h
  obtain ⟨hμ₁, rfl, hl₁, rfl⟩ := h
  refine bind (fetchFirstPage hμ₁ hJ hl₁ hpage) ?_ fun f ss tr s _ h => h
  intro page ss₂ tr₂ s₂ hJ₂ h
  obtain ⟨shown, hshown, hμ₂, hl₂, -, hrecent⟩ := h
  exact pure hJ₂ ⟨rfl, shown, hshown, hl₂, hμ₂, hrecent⟩

/-- A scan that fails before its first judgement. -/
theorem fails {account : Json} {f : Failure}
    (hc : Course e g s₀ [] [] [] (moment e.transport.previewLength tr s))
    (ht : Trouble e.transport.previewLength tr) :
    EndsCourse e g s₀ tr s { result := { account }, failure := some f } :=
  ⟨⟨[], [], [], [], hc, rfl, .inl ⟨rfl, rfl⟩, nofun, .inr ⟨rfl, rfl, rfl, rfl⟩⟩, fun _ => .inl ht⟩

/-- **The scan of a session stays on course.** -/
theorem scanSession {account : Json} (hp : p = e.transport.previewLength) (hl : Linked p ss tr s)
    (hnew : ss.sentFolder = none) (hμ : moment p tr s = moment p [] s₀) :
    Holds g p (OnCourse e g s₀) (e.scanSession { account })
      (fun x _ tr' s' => EndsScan e g s₀ account x tr' s') ss tr s := by
  subst hp
  have hstart : ∀ shown, Course e g s₀ [] [] []
      { moment e.transport.previewLength [] s₀ with pages := shown } :=
    fun shown => .start rfl rfl rfl
  unfold Engine.scanSession
  refine bind (newReplies hμ ⟨_, _, _, hstart []⟩ hl fun ms _ => ⟨_, _, _, hstart [ms]⟩) ?_ ?_
  · intro replies ss₁ tr₁ s₁ hJ₁ h
    obtain ⟨ms, rfl, shown, hshown, hμ₁, hl₁, hsent, hms⟩ := h
    change Paged shown ms at hshown
    change moment _ tr₁ s₁ = { moment e.transport.previewLength [] s₀ with pages := shown } at hμ₁
    have hc₁ := hstart shown
    split
    next hempty =>
      have hpage : shown.getD 0 [] = ms := by rcases hshown with rfl | ⟨rfl, rfl⟩ <;> rfl
      have hreplies : repliesIn shown = [] := by
        rw [repliesIn, hpage]
        exact List.isEmpty_iff.1 hempty
      have hmatching : matchingIn (moment e.transport.previewLength tr₁ s₁).pages = ⟨[], []⟩ := by
        rw [hμ₁]
        show matching (repliesIn shown) _ = _
        rw [hreplies]
        rfl
      rw [← hμ₁] at hc₁
      refine pure hJ₁ ⟨⟨[], [], [], [], hc₁, rfl, .inl ⟨rfl, rfl⟩, fun _ => ⟨?_, ?_⟩, .inl ?_⟩,
        nofun⟩
      · rw [tasksIn, hmatching]
        rfl
      · rw [hμ₁]
        exact hpage.symm ▸ hms
      · rw [hmatching]
        exact ⟨rfl, rfl⟩
    next hsome =>
      -- Nothing was fetched only where nothing was found.
      have hone : shown = [ms] := hshown.resolve_right fun h => hsome (by rw [h.2]; rfl)
      subst hone
      refine bind (sentMessages hμ₁ ⟨_, _, _, hc₁⟩ hl₁ (hsent.trans hnew) fun ns _ =>
        ⟨_, _, _, hstart ([ms] ++ [ns])⟩) ?_ ?_
      · intro found ss₂ tr₂ s₂ hJ₂ h
        obtain ⟨folder, ns⟩ := found
        obtain ⟨rfl, shown, hshown₂, hl₂, hμ₂, hns⟩ := h
        change moment _ tr₂ s₂
          = { moment e.transport.previewLength [] s₀ with pages := [ms] ++ shown } at hμ₂
        have hpage : ([ms] ++ shown).getD 1 [] = ns := by
          rcases hshown₂ with rfl | ⟨rfl, rfl⟩ <;> rfl
        have hseen : Seen e g s₀ (moment e.transport.previewLength tr₂ s₂).pages := by
          rw [hμ₂]
          exact ⟨hms, hpage.symm ▸ hns⟩
        have hmatching : matchingIn (moment e.transport.previewLength tr₂ s₂).pages
            = matching (selected unclassified ms) ns := by
          rw [hμ₂]
          exact congrArg (matching _) hpage
        have htasks : tasksIn (moment e.transport.previewLength tr₂ s₂).pages
            = tasksOf (selected unclassified ms) (matching (selected unclassified ms) ns) := by
          rw [tasksIn, hmatching, hμ₂]
          rfl
        have hc₂ := hstart ([ms] ++ shown)
        rw [← hμ₂] at hc₂
        refine mono (work [] rfl hl₂ hc₂ hseen (by rw [htasks]; rfl) rfl
          (by rw [hmatching]; exact ⟨rfl, rfl⟩)) ?_
        intro x ss₃ tr₃ s₃ _ h
        obtain ⟨pr, rfl, hends⟩ := h
        exact hends
      · intro f ss₂ tr₂ s₂ _ h
        obtain ⟨hμ₂, ht⟩ := h
        rw [← hμ₂] at hc₁
        exact fails hc₁ ht
  · intro f ss₁ tr₁ s₁ _ h
    obtain ⟨hμ₁, ht⟩ := h
    have hc₁ := hstart []
    change Course e g s₀ [] [] [] (moment e.transport.previewLength [] s₀) at hc₁
    rw [← hμ₁] at hc₁
    exact fails hc₁ ht

end Holds

end Mailroom.Scan
