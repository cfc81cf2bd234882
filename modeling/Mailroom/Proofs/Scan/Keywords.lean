import Mailroom.Proofs.Scan.Recovery
/-!
  Mailroom.Proofs.Scan.Keywords
  ────────────────────────────────
  **WHICH CATEGORY KEYWORDS A REPLY COMES TO CARRY.**

  A scan that is interrupted between the keyword and the marker of a reply leaves the
  keyword, and the next scan asks about the reply again; if the classifier then
  answers something else, the reply ends with two keywords.  What holds over any
  number of scans, whatever SEARCH finds and whatever fails:

      keywords_answered — the keywords of a reply are those of answers given for it,
                          and one answer is counted once it has its marker
-/
namespace Mailroom.Scan

open Mailroom.Imap Mailroom.Mail Mailroom.Reply

/-! ## §1. The answers of a run. -/

/-- The tasks that were judged in a run, with the categories stated. -/
def judgedIn (e : Engine) (tr : List Event) : List (Task × Category) :=
  (tasksIn (pages e.transport.previewLength tr)).zip ((judgements tr).map Prod.snd)

/-- The judged tasks whose outcome the result of a run counts. -/
def countedIn (e : Engine) (run : List Event × Progress) : List (Task × Category) :=
  (judgedIn e run.1).take run.2.result.outcomes.length

/-- The categories in judged tasks for the reply with a UID. -/
def categoriesOf (judged : List (Task × Category)) (uid : Int) : List Category :=
  (judged.filter fun x => x.1.reply.uid = uid).map Prod.snd

/-- The answers that some scans got for a reply. -/
def answersGiven (e : Engine) (runs : List (List Event × Progress)) (uid : Int) : List Category :=
  runs.flatMap fun run => categoriesOf (judgedIn e run.1) uid

/-- The answers that some scans counted for a reply. -/
def answersCounted (e : Engine) (runs : List (List Event × Progress)) (uid : Int) :
    List Category :=
  runs.flatMap fun run => categoriesOf (countedIn e run) uid

section

variable {e : Engine} {g : Regime} {s₀ s : Site} {judged done : List (Task × Category)}
  {written confirmed : List Write} {tr : List Event} {pr : Progress}

theorem zip_of_prefix {α β : Type} {xs : List (α × β)} {as : List α}
    (h : xs.map Prod.fst <+: as) : as.zip (xs.map Prod.snd) = xs := by
  obtain ⟨rest, rfl⟩ := h
  induction xs with
  | nil => simp
  | cons x xs ih => simp [ih]

/-- The tasks judged in a run can be read off its events. -/
theorem Course.judgedIn_eq
    (h : Course e g s₀ judged written confirmed (moment e.transport.previewLength tr s)) :
    judgedIn e tr = judged := by
  have hsnd : (Scan.judgements tr).map Prod.snd = judged.map Prod.snd := by
    rw [show Scan.judgements tr = _ from h.judgements, List.map_map]
    rfl
  rw [judgedIn, hsnd]
  exact zip_of_prefix h.tasks

theorem Ended.countedIn_eq
    (h : Ended e g s₀ judged written confirmed done (moment e.transport.previewLength tr s) pr) :
    countedIn e (tr, pr) = done := by
  have hlength : pr.result.outcomes.length = done.length := by rw [h.outcomes, List.length_map]
  rw [countedIn, h.toCourse.judgedIn_eq, hlength]
  exact (List.prefix_iff_eq_take.1 h.prefix_judged).symm

/-- No reply is judged twice in a run. -/
theorem Course.uids_nodup {μ : Moment} (h : Course e g s₀ judged written confirmed μ) :
    (judged.map fun x => x.1.reply.uid).Nodup := by
  by_cases hne : judged = []
  · simp [hne]
  · have hseen := h.seen hne
    have hall : ((tasksIn μ.pages).map fun t => t.reply.uid).Nodup := by
      rw [tasksIn, matchingIn, ((tasksOf_perm _ hseen.replies.nodup).map _).nodup_iff, List.map_map]
      exact hseen.replies.nodup
    have hsub := h.tasks.sublist.map fun t => t.reply.uid
    rw [List.map_map] at hsub
    exact hall.sublist hsub

/-- A reply whose messages all carry the marker is not judged. -/
theorem Course.unjudged {μ : Moment} (h : Course e g s₀ judged written confirmed μ) {u : Int}
    (hmarked : ∀ k ∈ s₀.folders inbox, k.uid = u → classifiedFlag ∈ k.flags) :
    ∀ x ∈ judged, x.1.reply.uid ≠ u := by
  intro x hx hu
  obtain ⟨hseen, m, hm, hxm⟩ := h.exists_reply hx
  obtain ⟨k, hk, hs⟩ := hseen.replies.truthful m hm
  have hmu : m.uid = u := by rw [← hu, hxm]; rfl
  have hlacks : classifiedFlag ∉ m.flags := by
    simpa [repliesIn, selected, unclassified, Filter.Expr.holds] using (List.mem_filter.1 hm).2
  exact hlacks (hs.mem_flags.2 (hmarked k hk (hs.uid_eq.symm.trans hmu)))

theorem categoriesOf_eq_nil {u : Int} (h : ∀ x ∈ judged, x.1.reply.uid ≠ u) :
    categoriesOf judged u = [] := by
  unfold categoriesOf
  rw [List.filter_eq_nil_iff.2 fun x hx => by simpa using h x hx]
  rfl

theorem categoriesOf_of_mem (hnodup : (judged.map fun x => x.1.reply.uid).Nodup)
    {x : Task × Category} (hx : x ∈ judged) : categoriesOf judged x.1.reply.uid = [x.2] := by
  unfold categoriesOf
  induction judged with
  | nil => cases hx
  | cons y ys ih =>
    obtain ⟨hy, hys⟩ := List.nodup_cons.1 hnodup
    rcases List.mem_cons.1 hx with rfl | hx
    · have hnone : ys.filter (fun z => z.1.reply.uid = x.1.reply.uid) = [] := by
        refine List.filter_eq_nil_iff.2 fun z hz hzu => hy ?_
        exact List.mem_map.2 ⟨z, hz, by simpa using hzu⟩
      simp [hnone]
    · have hne : y.1.reply.uid ≠ x.1.reply.uid := fun heq =>
        hy (List.mem_map.2 ⟨x, hx, heq.symm⟩)
      simp only [List.filter_cons, decide_eq_true_eq, hne, if_false]
      exact ih hys hx

theorem mem_categoriesOf {u : Int} {c : Category} :
    c ∈ categoriesOf judged u ↔ ∃ x ∈ judged, x.1.reply.uid = u ∧ x.2 = c := by
  simp only [categoriesOf, List.mem_map, List.mem_filter, decide_eq_true_eq, and_assoc]

end

/-! ## §2. Answers over many scans. -/

/-- What some scans wrote, and what they were answered and counted: writes come from
answers; a marker comes with one counted answer, whose flags are written; and about
messages that carried the marker from the start nobody was asked. -/
structure Answered (e : Engine) (g : Regime) (s₀ : Site) (runs : List (List Event × Progress))
    (s : Site) (J : List Write) : Prop where
  folders : s.folders = s₀.folders.writeAll J
  journal : s.journal = s₀.journal ++ J
  origin : ∀ w ∈ J, ∃ run ∈ runs, ∃ x ∈ judgedIn e run.1, w ∈ x.1.writes g.sent x.2
  uncounted : ∀ u, marker u ∉ J → answersCounted e runs u = []
  counted : ∀ u, marker u ∈ J →
    ∃ c, answersCounted e runs u = [c] ∧ ∀ flag ∈ tags c, ⟨inbox, u, flag⟩ ∈ J
  unasked : ∀ u, (∀ k ∈ s₀.folders inbox, k.uid = u → classifiedFlag ∈ k.flags) →
    answersGiven e runs u = []

section Scans

variable {e : Engine} {g : Regime} {s₀ s : Site} {runs : List (List Event × Progress)}
  {J : List Write}

theorem Answered.start : Answered e g s₀ [] s₀ [] where
  folders := rfl
  journal := by simp
  origin := by simp
  uncounted _ _ := rfl
  counted _ h := by cases h
  unasked _ _ := rfl

theorem Answered.scan {entry : Directory.Entry} {t : Site} {tr : List Event} {pr : Progress}
    (h : Answered e g s₀ runs s J) (htorn : ¬ g.torn) (hsent : g.sent ≠ inbox)
    (hrun : Dialogue.Ends g.law (e.scanEntry entry) s tr pr t) :
    ∃ J', Answered e g s₀ (runs ++ [(tr, pr)]) t J' := by
  obtain ⟨judged, ws, done, hc⟩ := scanEntry_confirmed htorn hrun
  have hjudgedIn : judgedIn e tr = judged := hc.toCourse.judgedIn_eq
  have hcounted : ∀ u, answersCounted e (runs ++ [(tr, pr)]) u
      = answersCounted e runs u ++ categoriesOf done u := by
    intro u
    simp [answersCounted, hc.countedIn_eq]
  -- Messages keep the marker, so a reply that got it before is not judged again.
  have hmarked : ∀ u, marker u ∈ J → ∀ x ∈ judged, x.1.reply.uid ≠ u := by
    intro u hu
    refine hc.toCourse.unjudged fun k hk hku => ?_
    rw [h.folders] at hk
    obtain ⟨k₀, -, rfl⟩ := Folders.mem_writeAll.1 hk
    rw [Kept.add_uid] at hku
    rw [Kept.add_flags, Finset.mem_union, mem_flagsSet, hku]
    exact .inr hu
  refine ⟨J ++ ws, ⟨?_, ?_, ?_, ?_, ?_, ?_⟩⟩
  · have hfolders : t.folders = s.folders.writeAll ws := hc.folders
    rw [hfolders, h.folders, Folders.writeAll_append]
  · have hjournal : t.journal = s.journal ++ ws := hc.journal
    rw [hjournal, h.journal, List.append_assoc]
  · intro w hw
    rcases List.mem_append.1 hw with hw | hw
    · obtain ⟨run, hrun, x, hx, hxw⟩ := h.origin w hw
      exact ⟨run, List.mem_append_left _ hrun, x, hx, hxw⟩
    · obtain ⟨x, hx, hxw⟩ := mem_plan.1 (hc.begun.mem hw)
      exact ⟨(tr, pr), List.mem_append_right _ List.mem_cons_self, x, hjudgedIn ▸ hx, hxw⟩
  · intro u hu
    rw [List.mem_append, not_or] at hu
    rw [hcounted, h.uncounted u hu.1, categoriesOf_eq_nil, List.nil_append]
    exact fun x hx hxu => hu.2 ((hc.marker_mem_iff hsent).2 ⟨x, hx, hxu⟩)
  · intro u hu
    -- Counted before, and then not asked again; or counted by this scan.
    by_cases hJ : marker u ∈ J
    · obtain ⟨c, hone, hflags⟩ := h.counted u hJ
      refine ⟨c, ?_, fun flag hflag => List.mem_append_left _ (hflags flag hflag)⟩
      rw [hcounted, hone, categoriesOf_eq_nil fun x hx => hmarked u hJ x (hc.prefix_judged.mem hx)]
      rfl
    · obtain ⟨x, hx, rfl⟩ :=
        (hc.marker_mem_iff hsent).1 ((List.mem_append.1 hu).resolve_left hJ)
      have hnodup := hc.toCourse.uids_nodup.sublist (hc.prefix_judged.sublist.map _)
      refine ⟨x.2, ?_, fun flag hflag => List.mem_append_right _ ?_⟩
      · rw [hcounted, h.uncounted _ hJ, categoriesOf_of_mem hnodup hx]
        rfl
      · exact hc.plan_counted.mem (mem_plan.2 ⟨x, hx, mem_writesOf.2 ⟨hflag, .inl rfl⟩⟩)
  · intro u hu
    -- Flags are only added, so the messages still carry the marker in this scan.
    have hrun : categoriesOf (judgedIn e tr) u = [] := by
      rw [hjudgedIn]
      refine categoriesOf_eq_nil (hc.toCourse.unjudged fun k hk hku => ?_)
      rw [h.folders] at hk
      obtain ⟨k₀, hk₀, rfl⟩ := Folders.mem_writeAll.1 hk
      exact Finset.mem_union_left _ (hu k₀ hk₀ hku)
    have hbefore := h.unasked u hu
    simp only [answersGiven] at hbefore ⊢
    simp [hbefore, hrun]

theorem Scans.answered {entry : Directory.Entry} (hscans : Scans e g entry s₀ runs s)
    (htorn : ¬ g.torn) (hsent : g.sent ≠ inbox) : ∃ J, Answered e g s₀ runs s J := by
  induction hscans with
  | none => exact ⟨[], .start⟩
  | scan _ last ih =>
    obtain ⟨J, hJ⟩ := ih
    exact hJ.scan htorn hsent last

end Scans

/-! ## §3. Keywords. -/

/-- A message carries the keyword of a category. -/
def Carries (k : Kept) (c : Category) : Prop := ∃ keyword ∈ c.keyword?, keyword ∈ k.flags

theorem keyword?_injective {c d : Category} {keyword : String} (hc : keyword ∈ c.keyword?)
    (hd : keyword ∈ d.keyword?) : c = d := by
  cases c <;> cases hc <;> cases d <;> first | rfl | exact absurd hd (by decide)

theorem keyword_ne_classified {c : Category} {keyword : String} (hc : keyword ∈ c.keyword?) :
    keyword ≠ classifiedFlag := by
  cases c <;> cases hc <;> decide

/-- **The keywords of a message come from answers.**  After any scans of a mailbox whose
inbox carried no category keywords, a message of the inbox carries exactly the keywords
whose STORE was confirmed, each the keyword of an answer given for the message.  With
the marker comes one counted answer, whose keyword is carried, unless the message had
the marker from the start and nobody was asked about it.  So where the answers for the
message agree, it carries at most one keyword. -/
theorem keywords_answered (e : Engine) (g : Regime) (entry : Directory.Entry) {s₀ s : Site}
    {runs : List (List Event × Progress)} (htorn : ¬ g.torn) (hsent : g.sent ≠ inbox)
    (hin : ((s₀.folders inbox).map (·.uid)).Nodup)
    (hbare : ∀ k ∈ s₀.folders inbox, ∀ c, ¬ Carries k c)
    (hscans : Scans e g entry s₀ runs s) {k : Kept} (hk : k ∈ s.folders inbox) :
    ∃ k₀ ∈ s₀.folders inbox, k₀.uid = k.uid ∧ ∃ J, s.journal = s₀.journal ++ J ∧
      (∀ c, Carries k c ↔ ∃ keyword ∈ c.keyword?, ⟨inbox, k.uid, keyword⟩ ∈ J) ∧
      (∀ c, Carries k c → c ∈ answersGiven e runs k.uid) ∧
      (classifiedFlag ∈ k.flags →
        classifiedFlag ∈ k₀.flags ∧ answersGiven e runs k.uid = [] ∨
        ∃ c, answersCounted e runs k.uid = [c] ∧ (c ≠ .none → Carries k c)) ∧
      ((∀ c ∈ answersGiven e runs k.uid, ∀ d ∈ answersGiven e runs k.uid, c = d) →
        ∀ c d, Carries k c → Carries k d → c = d) := by
  obtain ⟨J, h⟩ := hscans.answered htorn hsent
  rw [h.folders] at hk
  obtain ⟨k₀, hk₀, rfl⟩ := Folders.mem_writeAll.1 hk
  -- Bare at the start, the message carries what was written to it and no more.
  have hcarries : ∀ c, Carries (k₀.add (flagsSet J inbox k₀.uid)) c
      ↔ ∃ keyword ∈ c.keyword?, ⟨inbox, k₀.uid, keyword⟩ ∈ J := by
    intro c
    refine exists_congr fun keyword => and_congr_right fun hc => ?_
    rw [Kept.add_flags, Finset.mem_union, mem_flagsSet]
    exact or_iff_right fun hold => hbare k₀ hk₀ c ⟨keyword, hc, hold⟩
  -- A keyword was written for an answer about this very message.
  have hgiven : ∀ c, Carries (k₀.add (flagsSet J inbox k₀.uid)) c →
      c ∈ answersGiven e runs k₀.uid := by
    intro c hcar
    obtain ⟨keyword, hc, hw⟩ := (hcarries c).1 hcar
    obtain ⟨run, hrun, x, hx, hxw⟩ := h.origin _ hw
    obtain ⟨hflag, hplace⟩ := mem_writesOf.1 hxw
    -- A write to the inbox is one to the reply, not to the sent message.
    have hu : x.1.reply.uid = k₀.uid := by
      rcases hplace with hp | hp
      · exact (congrArg Place.uid hp).symm
      · obtain ⟨v, -, hv⟩ := Option.map_eq_some_iff.1 hp
        exact absurd (congrArg Place.folder hv) hsent
    have hcx : x.2 = c := by
      refine keyword?_injective ?_ hc
      exact (mem_tags.1 hflag).resolve_left (keyword_ne_classified hc)
    exact List.mem_flatMap.2 ⟨run, hrun, mem_categoriesOf.2 ⟨x, hx, hu, hcx⟩⟩
  refine ⟨k₀, hk₀, rfl, J, h.journal, hcarries, hgiven, fun hmark => ?_, fun hagree c d hc hd =>
    hagree c (hgiven c hc) d (hgiven d hd)⟩
  rw [Kept.add_flags, Finset.mem_union, mem_flagsSet] at hmark
  -- The marker was written by one of the scans, or it was there from the start.
  by_cases hJ : marker k₀.uid ∈ J
  · obtain ⟨c, hone, hflags⟩ := h.counted _ hJ
    refine .inr ⟨c, hone, fun hne => (hcarries c).2 ?_⟩
    obtain ⟨keyword, hkey⟩ : ∃ keyword, keyword ∈ c.keyword? := by
      cases c <;> first | exact absurd rfl hne | exact ⟨_, rfl⟩
    exact ⟨keyword, hkey, hflags keyword (mem_tags.2 (.inr hkey))⟩
  · have hold := hmark.resolve_right hJ
    refine .inl ⟨hold, h.unasked _ fun l hl hlu => ?_⟩
    obtain rfl : l = k₀ := List.inj_on_of_nodup_map hin hl hk₀ hlu
    exact hold

/-! ## §4. Two answers for one reply. -/

namespace Sample

/-- The regime of a server whose classifier may answer anything. -/
def unruled : Regime := { sent := "Sent" }

/-- The server with another opinion of the reply. -/
def averse : Reference := { server with judge := fun _ => answering "complained" }

/-- The server after a scan that failed at the marker and one with another answer. -/
def twice : Site := (scan.run averse.answer halfway).2

/-- The two scans. -/
def attempts : List (List Event × Progress) :=
  [(scan.trace flaky.answer site, (scan.run flaky.answer site).1),
    (scan.trace averse.answer halfway, (scan.run averse.answer halfway).1)]

/-- The reply after both scans. -/
def piled : Kept := reply.add {"interested", "complained", classifiedFlag}

theorem lawful_unruled (x : Reference) (hx : x.sent = "Sent") (c : Mailroom.Command) (s : Site) :
    unruled.law s c (x.answer c s).1 (x.answer c s).2 := by
  have h := Regime.law_judges (fun _ _ => True) (fun _ _ _ => trivial) (x.lawful c s)
  unfold Reference.regime at h
  rw [hx] at h
  exact h

theorem scans_attempts : Scans engine unruled entry site attempts twice :=
  .scan (.scan .none (Dialogue.ends_run (lawful_unruled flaky rfl) scan site))
    (Dialogue.ends_run (lawful_unruled averse rfl) scan halfway)

theorem piled_mem : piled ∈ twice.folders inbox := by decide +kernel

theorem not_carries : ∀ k ∈ site.folders inbox, ∀ c, ¬ Carries k c := by
  intro k hk c h
  obtain ⟨keyword, hc, hf⟩ := h
  obtain rfl : k = reply := List.mem_singleton.1 hk
  cases c <;> cases hc <;> exact absurd hf (by decide)

end Sample

open Sample in
theorem keywords_answered_sample :
    ∃ k₀ ∈ site.folders inbox, k₀.uid = piled.uid ∧
      ∃ J, twice.journal = site.journal ++ J ∧
      (∀ c, Carries piled c ↔ ∃ keyword ∈ c.keyword?, ⟨inbox, piled.uid, keyword⟩ ∈ J) ∧
      (∀ c, Carries piled c → c ∈ answersGiven engine attempts piled.uid) ∧
      (classifiedFlag ∈ piled.flags →
        classifiedFlag ∈ k₀.flags ∧ answersGiven engine attempts piled.uid = [] ∨
        ∃ c, answersCounted engine attempts piled.uid = [c] ∧ (c ≠ .none → Carries piled c)) ∧
      ((∀ c ∈ answersGiven engine attempts piled.uid,
          ∀ d ∈ answersGiven engine attempts piled.uid, c = d) →
        ∀ c d, Carries piled c → Carries piled d → c = d) :=
  keywords_answered engine unruled entry id (by decide) (by decide) not_carries scans_attempts
    piled_mem

open Sample in
/-- The keywords of a message need not agree: a mailbox without keywords may come to one
with a classified reply that carries two. -/
theorem keywords_pile_up :
    (∀ k ∈ site.folders inbox, ∀ c, ¬ Carries k c) ∧
    ¬ ∀ runs s, Scans engine unruled entry site runs s → ∀ k ∈ s.folders inbox,
      classifiedFlag ∈ k.flags → ∀ c d, Carries k c → Carries k d → c = d := by
  refine ⟨not_carries, fun h => ?_⟩
  have hsame := h _ _ scans_attempts piled piled_mem (by decide) .interested .complained
    ⟨_, rfl, by decide⟩ ⟨_, rfl, by decide⟩
  cases hsame

end Mailroom.Scan
