import Mailroom.Proofs.Scan.Marker
import Mailroom.Proofs.Scan.Worklist
/-!
  Mailroom.Proofs.Scan.FinalState
  ────────────────────────────────
  **WHAT A SCAN WITHOUT FAILURE LEAVES BEHIND.**

  With an honest server, a scan that does not fail asks once about each message of
  the worklist, and its answers determine the flags of every message afterwards and
  the counts of the result:

      added       — the flags that a message gains
      final_state — the whole of it, and when a scan does not fail
-/
namespace Mailroom.Scan

open Mailroom.Imap Mailroom.Mail Mailroom.Reply

/-- The flags that a message of a folder gains: a due message those of its own
category, and a sent message those of the categories of all due messages that
answer it. -/
def Engine.added (e : Engine) (sent : String) (fs : Folders) (verdict : Kept → Category)
    (folder : String) (k : Kept) : Finset String :=
  (if folder = inbox ∧ k ∈ e.due fs then tags (verdict k) else ∅) ∪
    if folder = sent then
      ((e.due fs).filter fun r => e.partner? sent fs r = some k).toFinset.biUnion
        fun r => tags (verdict r)
    else ∅

section

variable {e : Engine} {sent : String} {fs : Folders}

/-- The writes for the worklist add just these flags. -/
theorem writeAll_outcomes (hin : ((fs inbox).map (·.uid)).Nodup)
    (hout : ((fs sent).map (·.uid)).Nodup) {ks : List (Kept × Category)}
    {verdict : Kept → Category} (hks : ks.map Prod.fst = e.worklist sent fs)
    (hverdict : ∀ y ∈ ks, verdict y.1 = y.2) :
    fs.writeAll (e.outcomes sent fs ks)
      = fun n => (fs n).map fun k => k.add (e.added sent fs verdict n k) := by
  -- The pairs are the due messages with their verdicts, in some order.
  have hdue : ∀ r c, (r, c) ∈ ks ↔ r ∈ e.due fs ∧ verdict r = c := by
    intro r c
    rw [← (Engine.mem_worklist : r ∈ e.worklist sent fs ↔ _), ← hks, List.mem_map]
    constructor
    · exact fun h => ⟨⟨_, h, rfl⟩, hverdict _ h⟩
    · intro h
      obtain ⟨⟨y, hy, rfl⟩, rfl⟩ := h
      rw [hverdict y hy]
      exact hy
  funext n
  rw [Folders.writeAll_apply]
  apply List.map_congr_left
  intro k hk
  congr 1
  ext flag
  simp only [mem_flagsSet, Engine.mem_outcomes, Engine.mem_outcome, Engine.added, Finset.mem_union]
  constructor
  · intro h
    obtain ⟨⟨r, c⟩, hr, hflag, ⟨rfl, hu⟩ | ⟨rfl, l, hl, hu⟩⟩ := h
    · obtain ⟨hd, rfl⟩ := (hdue r c).1 hr
      obtain rfl : k = r := List.inj_on_of_nodup_map hin hk (Engine.mem_due hd).1 hu
      left
      rw [if_pos ⟨rfl, hd⟩]
      exact hflag
    · obtain ⟨hd, rfl⟩ := (hdue r c).1 hr
      obtain rfl : k = l := List.inj_on_of_nodup_map hout hk (Engine.mem_of_partner? hl) hu
      right
      rw [if_pos rfl, Finset.mem_biUnion]
      exact ⟨r, by simpa using ⟨hd, hl⟩, hflag⟩
  · intro h
    rcases h with h | h
    · split at h
      next hd =>
        obtain ⟨rfl, hd⟩ := hd
        exact ⟨(k, verdict k), (hdue _ _).2 ⟨hd, rfl⟩, h, .inl ⟨rfl, rfl⟩⟩
      next => simp at h
    · split at h
      next hn =>
        subst hn
        obtain ⟨r, hr, hflag⟩ := Finset.mem_biUnion.1 h
        simp only [List.mem_toFinset, List.mem_filter, decide_eq_true_eq] at hr
        exact ⟨(r, verdict r), (hdue _ _).2 ⟨hr.1, rfl⟩, hflag, .inr ⟨rfl, k, hr.2, rfl⟩⟩
      next => simp at h

end

/-- When everything went without failure, all of the worklist is counted. -/
theorem Ended.all_counted {e : Engine} {g : Regime} {s₀ : Site} {judged : List (Task × Category)}
    {written confirmed : List Write} {counted : List (Task × Category)} {μ : Moment}
    {pr : Progress} (h : Ended e g s₀ judged written confirmed counted μ pr)
    (hdone : pr.failure = none) : judged = counted ∧ written = plan g.sent judged := by
  obtain ⟨heq, hplan⟩ := h.counts.resolve_right fun hf => by simp [hdone] at hf
  refine ⟨heq, ?_⟩
  -- No write is in doubt, as there would be one more than the plan has.
  rcases h.confirms with hw | ⟨-, w, hw⟩
  · rw [hw, hplan]
  · have hle := h.begun.length_le
    rw [hw, hplan, List.length_append, List.length_singleton] at hle
    omega

/-- When everything went without failure, the whole worklist was judged. -/
theorem Ended.worked {e : Engine} {g : Regime} {s₀ : Site} {judged : List (Task × Category)}
    {written confirmed : List Write} {counted : List (Task × Category)} {μ : Moment}
    {pr : Progress} (h : Ended e g s₀ judged written confirmed counted μ pr)
    (hdone : pr.failure = none) (hhonest : g.honest)
    (hin : ((s₀.folders inbox).map (·.uid)).Nodup)
    (hout : ((s₀.folders g.sent).map (·.uid)).Nodup) :
    ∃ ks : List (Kept × Category), ks.map Prod.fst = e.worklist g.sent s₀.folders ∧
      List.Forall₂ (Stands e g.sent s₀.folders) ks judged ∧
      pr.result.matched
        = (e.due s₀.folders).countP (fun k => (e.partner? g.sent s₀.folders k).isSome) ∧
      pr.result.unmatched
        = (e.due s₀.folders).countP fun k => (e.partner? g.sent s₀.folders k).isNone := by
  obtain ⟨htasks, hrecent⟩ := h.complete hdone
  have hnumbers := h.numbers.resolve_right fun hf => by simp [hdone] at hf
  -- Where nothing was judged there were no replies, and the sent folder was not read.
  by_cases hne : judged = []
  · subst hne
    have hreplies : repliesIn μ.pages = [] := by
      have hperm := tasksOf_perm (μ.pages.getD 1 []) (hrecent.toListing.filter
        fun m => unclassified.holds m.flags).nodup
      change (tasksIn μ.pages).Perm ((repliesIn μ.pages).map _) at hperm
      rw [← htasks] at hperm
      exact List.map_eq_nil_iff.1 hperm.symm.eq_nil
    have hdue : e.due s₀.folders = [] := by
      have hforall := hrecent.replies hhonest hin
      change List.Forall₂ _ _ (repliesIn μ.pages) at hforall
      rw [hreplies] at hforall
      exact List.forall₂_nil_right_iff.1 hforall
    refine ⟨[], ?_, .nil, ?_, ?_⟩
    · simp [Engine.worklist, hdue]
    · rw [hnumbers.1, hdue, matchingIn, hreplies]
      rfl
    · rw [hnumbers.2, hdue, matchingIn, hreplies]
      rfl
  · have hseen := h.seen hne
    have hbecome := hseen.tasks hhonest hin hout
    rw [← htasks] at hbecome
    obtain ⟨ks, hks, hstand⟩ := exists_pairs_of_forall₂ hbecome
    have hcount := hseen.numbers hhonest hin hout
    exact ⟨ks, hks, hstand.imp fun y x hyx => ⟨hyx.1, hyx.2⟩, hnumbers.1.trans hcount.1,
      hnumbers.2.trans hcount.2⟩

/-- **What a scan leaves behind.**  If every answer is smooth, the scan does not fail.
And if it does not fail, it asked about each message of the worklist once; the flags
that messages gained are those of the answers, and the result counts the answers and
the messages with and without a partner. -/
theorem final_state (e : Engine) (g : Regime) (entry : Directory.Entry) {s₀ s : Site}
    {tr : List Event} {pr : Progress} (hhonest : g.honest)
    (hin : ((s₀.folders inbox).map (·.uid)).Nodup)
    (hout : ((s₀.folders g.sent).map (·.uid)).Nodup)
    (hrun : Dialogue.Ends g.law (e.scanEntry entry) s₀ tr pr s) :
    ((∀ ev ∈ tr, Smooth e.transport.previewLength ev) → 0 ≤ e.directory.maxRetries →
      pr.failure = none) ∧
    (pr.failure = none → ∃ verdict : Kept → Category,
      (judgements tr).map (fun x => (some x.1, x.2))
        = (e.worklist g.sent s₀.folders).map (fun k => (e.question? k, verdict k)) ∧
      s.folders = (fun n => (s₀.folders n).map fun k =>
        k.add (e.added g.sent s₀.folders verdict n k)) ∧
      (∀ c, pr.result.count c = (e.due s₀.folders).countP fun k => verdict k = c) ∧
      pr.result.matched
        = (e.due s₀.folders).countP (fun k => (e.partner? g.sent s₀.folders k).isSome) ∧
      pr.result.unmatched
        = (e.due s₀.folders).countP fun k => (e.partner? g.sent s₀.folders k).isNone) := by
  obtain ⟨⟨judged, written, confirmed, counted, h⟩, htrouble⟩ := scanEntry_ends hrun
  refine ⟨fun hsmooth hmax => ?_, fun hdone => ?_⟩
  · by_contra hne
    -- A failure comes from an answer that was not smooth, or from no attempt at all.
    rcases htrouble (Option.isSome_iff_ne_none.2 hne) with ⟨ev, hev, hbad⟩ | hneg
    · exact hbad (hsmooth ev hev)
    · omega
  · obtain ⟨rfl, rfl⟩ := h.all_counted hdone
    obtain ⟨ks, hks, hstand, hmatched, hunmatched⟩ := h.worked hdone hhonest hin hout
    have hnodup : (ks.map Prod.fst).Nodup := by
      rw [hks]
      exact (Engine.worklist_nodup hin).of_map
    -- No message is judged twice, so the categories are a function of the message.
    obtain ⟨verdict, hverdict⟩ := exists_function Category.none hnodup
    refine ⟨verdict, ?_, ?_, ?_, hmatched, hunmatched⟩
    · have hjudged : judgements tr = judged.map fun x => (x.1.question e.classifier, x.2) :=
        h.judgements
      rw [hjudged, List.map_map]
      refine (questions_eq_of_stands hstand).trans ?_
      rw [← hks, List.map_map]
      apply List.map_congr_left
      intro y hy
      rw [Function.comp_apply, hverdict y hy]
    · have hfolders : s.folders = s₀.folders.writeAll (plan g.sent judged) := h.folders
      rw [hfolders, plan_eq_of_stands hstand]
      exact writeAll_outcomes hin hout hks hverdict
    · intro c
      unfold AccountResult.count
      -- The counts do not depend on the order of the worklist.
      have hcategories : ks.map Prod.snd = (e.worklist g.sent s₀.folders).map verdict := by
        rw [← hks, List.map_map]
        exact List.map_congr_left fun y hy => (hverdict y hy).symm
      rw [h.outcomes, categories_eq_of_stands hstand, hcategories,
        (Engine.worklist_perm.map verdict).count_eq, List.count_eq_countP, List.countP_map]
      exact List.countP_congr fun k _ => by simp

open Sample in
theorem final_state_sample :
    ((∀ ev ∈ scan.trace server.answer site, Smooth 200 ev) ∧
      (scan.run server.answer site).1.failure = none) ∧
    ∃ verdict : Kept → Category,
      (judgements (scan.trace server.answer site)).map (fun x => (some x.1, x.2))
        = (engine.worklist "Sent" site.folders).map (fun k => (engine.question? k, verdict k)) ∧
      (scan.run server.answer site).2.folders = (fun n => (site.folders n).map fun k =>
        k.add (engine.added "Sent" site.folders verdict n k)) ∧
      (∀ c, (scan.run server.answer site).1.result.count c
        = (engine.due site.folders).countP fun k => verdict k = c) ∧
      (scan.run server.answer site).1.result.matched
        = (engine.due site.folders).countP
          (fun k => (engine.partner? "Sent" site.folders k).isSome) ∧
      (scan.run server.answer site).1.result.unmatched
        = (engine.due site.folders).countP
          fun k => (engine.partner? "Sent" site.folders k).isNone :=
  have hsmooth : ∀ ev ∈ scan.trace server.answer site, Smooth 200 ev := by decide +kernel
  have h := final_state engine server.regime entry trivial (by decide) (by decide)
    (Dialogue.ends_run server.lawful scan site)
  have hdone := h.1 hsmooth (by decide)
  ⟨⟨hsmooth, hdone⟩, h.2 hdone⟩

end Mailroom.Scan
