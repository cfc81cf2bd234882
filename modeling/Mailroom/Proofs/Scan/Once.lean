import Mailroom.Proofs.Scan.Abiding
import Mailroom.Proofs.Scan.Keywords
/-!
  Mailroom.Proofs.Scan.Once
  ────────────────────────────────
  **EVERY REPLY IS COUNTED ONCE, AND IN THE END THERE IS NOTHING LEFT TO DO.**

  An account is scanned again and again, each time under circumstances of its own, and
  in between others may change the mail.  A reply that was counted carries the marker,
  and what carries the marker is not taken up, whatever SEARCH finds.  Each scan that
  does not fail marks as many replies as its limit allows; when none is left unmarked,
  a scan asks the classifier nothing and sets no flag.

      Series       — scans one after the other, with others in between
      unmarked     — the replies that are still to be marked
      exactly_once — once at most, and all of them after enough scans
-/
namespace Mailroom.Scan

open Mailroom.Imap Mailroom.Mail Mailroom.Reply Mailroom.Simulation

/-! ## §1. Scans with others in between. -/

/-- A whole scan of an account, and the circumstances under which it was made. -/
structure Pass where
  regime : Regime
  before : Site
  events : List Event
  result : Progress
  after : Site

/-- The events and the result of a scan. -/
def Pass.outcome (p : Pass) : List Event × Progress := (p.events, p.result)

/-- What is said of a scan is a run of the scan of an account. -/
def Pass.Runs (e : Engine) (entry : Directory.Entry) (p : Pass) : Prop :=
  Dialogue.Ends p.regime.law (e.scanEntry entry) p.before p.events p.result p.after

/-- Scans of an account, one after the other.  What others may do to the mail between
them is told by `gap`. -/
inductive Series (e : Engine) (entry : Directory.Entry) (gap : Site → Site → Prop) (s₀ : Site) :
    List Pass → Site → Prop
  | start : Series e entry gap s₀ [] s₀
  | pass {passes : List Pass} {s : Site} {p : Pass} (earlier : Series e entry gap s₀ passes s)
      (meanwhile : gap s p.before) (run : p.Runs e entry) :
      Series e entry gap s₀ (passes ++ [p]) p.after

section

variable {e : Engine} {entry : Directory.Entry} {gap : Site → Site → Prop} {s₀ s : Site}
  {passes : List Pass} {p : Pass}

theorem Series.runs (h : Series e entry gap s₀ passes s) : ∀ p ∈ passes, p.Runs e entry := by
  induction h with
  | start => simp
  | pass _ _ run ih =>
    intro q hq
    rcases List.mem_append.1 hq with hq | hq
    · exact ih q hq
    · rw [List.mem_singleton.1 hq]
      exact run

theorem Series.mono {gap' : Site → Site → Prop} (h : Series e entry gap s₀ passes s)
    (hgap : ∀ s t, gap s t → gap' s t) : Series e entry gap' s₀ passes s := by
  induction h with
  | start => exact .start
  | pass _ meanwhile run ih => exact .pass ih (hgap _ _ meanwhile) run

/-! ## §2. Counted once at most. -/

/-- Some message of the inbox with a UID carries the marker. -/
def SomeMarked (s : Site) (u : Int) : Prop :=
  ∃ k ∈ s.folders inbox, k.uid = u ∧ classifiedFlag ∈ k.flags

/-- All messages of the inbox with a UID carry the marker. -/
def AllMarked (s : Site) (u : Int) : Prop :=
  ∀ k ∈ s.folders inbox, k.uid = u → classifiedFlag ∈ k.flags

theorem Confirmed.subset {g : Regime} {written confirmed : List Write}
    (h : Confirmed g written confirmed) {w : Write} (hw : w ∈ confirmed) : w ∈ written := by
  rcases h with rfl | ⟨-, v, rfl⟩
  · exact hw
  · exact List.mem_append_left _ hw

/-- What came of a scan, and what it wrote. -/
theorem Pass.Runs.ended (h : p.Runs e entry) : ∃ judged written confirmed counted,
    Ended e p.regime p.before judged written confirmed counted
        (moment e.transport.previewLength p.events p.after) p.result ∧
      p.after.folders = p.before.folders.writeAll written := by
  obtain ⟨⟨judged, written, confirmed, counted, hc⟩, -⟩ := scanEntry_ends h
  exact ⟨judged, written, confirmed, counted, hc, hc.folders⟩

/-- A scan counts a reply once at most; then it found the reply without the marker, and
left it with the marker. -/
theorem Pass.Runs.counted (h : p.Runs e entry) (u : Int) :
    categoriesOf (countedIn e p.outcome) u = [] ∨
      (∃ c, categoriesOf (countedIn e p.outcome) u = [c]) ∧ SomeMarked p.after u ∧
        ¬ AllMarked p.before u := by
  obtain ⟨judged, written, confirmed, counted, hc, hfolders⟩ := h.ended
  rw [Pass.outcome, hc.countedIn_eq]
  by_cases hu : ∃ x ∈ counted, x.1.reply.uid = u
  · obtain ⟨x, hx, rfl⟩ := hu
    have hjudged := hc.prefix_judged.mem hx
    have hnodup := hc.toCourse.uids_nodup.sublist (hc.prefix_judged.sublist.map _)
    have hmark : marker x.1.reply.uid ∈ written := hc.confirms.subset
      (hc.plan_counted.mem (mem_plan.2 ⟨x, hx, mem_writesOf.2 ⟨mem_tags.2 (.inl rfl), .inl rfl⟩⟩))
    refine .inr ⟨⟨x.2, categoriesOf_of_mem hnodup hx⟩, ?_, fun hall =>
      hc.toCourse.unjudged hall x hjudged rfl⟩
    -- The message that the reply was read from is still there, now with the marker.
    obtain ⟨hseen, m, hm, hxm⟩ := hc.toCourse.exists_reply hjudged
    obtain ⟨k, hk, hs⟩ := hseen.replies.truthful m hm
    have hku : k.uid = x.1.reply.uid := by rw [← hs.uid_eq, hxm]; rfl
    refine ⟨k.add (flagsSet written inbox k.uid), ?_, hku, ?_⟩
    · rw [hfolders]
      exact Folders.mem_writeAll.2 ⟨k, hk, rfl⟩
    · rw [Kept.add_flags, Finset.mem_union, mem_flagsSet, hku]
      exact .inr hmark
  · exact .inl (categoriesOf_eq_nil fun x hx hxu => hu ⟨x, hx, hxu⟩)

/-- **A reply is counted once at most**, as long as nobody takes its marker away. -/
theorem answersCounted_length_le (hruns : ∀ p ∈ passes, p.Runs e entry) {u : Int}
    (hkept : passes.Pairwise fun p q => SomeMarked p.after u → AllMarked q.before u) :
    (answersCounted e (passes.map Pass.outcome) u).length ≤ 1 := by
  induction passes with
  | nil => exact Nat.zero_le 1
  | cons p passes ih =>
    obtain ⟨hp, hpasses⟩ := List.pairwise_cons.1 hkept
    have hcons : answersCounted e ((p :: passes).map Pass.outcome) u
        = categoriesOf (countedIn e p.outcome) u
          ++ answersCounted e (passes.map Pass.outcome) u := rfl
    rw [hcons]
    rcases (hruns p List.mem_cons_self).counted u with hnone | ⟨⟨c, hone⟩, hmarked, -⟩
    · rw [hnone, List.nil_append]
      exact ih (fun q hq => hruns q (List.mem_cons_of_mem _ hq)) hpasses
    · -- It is marked from now on, so no later scan takes it up.
      have hlater : answersCounted e (passes.map Pass.outcome) u = [] := by
        refine List.flatMap_eq_nil_iff.2 fun run hrun => ?_
        obtain ⟨q, hq, rfl⟩ := List.mem_map.1 hrun
        refine ((hruns q (List.mem_cons_of_mem _ hq)).counted u).resolve_right fun h => ?_
        exact h.2.2 (hp q hq hmarked)
      rw [hone, hlater]
      exact le_refl 1

/-! ## §3. Enough scans mark all replies. -/

/-- The UIDs of the messages of the inbox that lack the marker. -/
def unmarked (fs : Folders) : Finset Int :=
  (((fs inbox).filter fun k => classifiedFlag ∉ k.flags).map (·.uid)).toFinset

theorem mem_unmarked {fs : Folders} {u : Int} :
    u ∈ unmarked fs ↔ ∃ k ∈ fs inbox, classifiedFlag ∉ k.flags ∧ k.uid = u := by
  simp [unmarked, and_assoc]

theorem marked_of_unmarked_eq_empty {fs : Folders} (h : unmarked fs = ∅) :
    ∀ k ∈ fs inbox, classifiedFlag ∈ k.flags := by
  intro k hk
  by_contra hlacks
  exact Finset.eq_empty_iff_forall_notMem.1 h k.uid (mem_unmarked.2 ⟨k, hk, hlacks, rfl⟩)

/-- Markers that are written leave the others unmarked. -/
theorem unmarked_writeAll {fs : Folders} {ws : List Write} :
    unmarked (fs.writeAll ws) = (unmarked fs).filter fun u => marker u ∉ ws := by
  ext u
  simp only [mem_unmarked, Finset.mem_filter, Folders.mem_writeAll]
  constructor
  · intro h
    obtain ⟨_, ⟨k, hk, rfl⟩, hlacks, rfl⟩ := h
    rw [Kept.add_flags, Finset.mem_union, mem_flagsSet, not_or] at hlacks
    exact ⟨⟨k, hk, hlacks.1, rfl⟩, hlacks.2⟩
  · intro h
    obtain ⟨⟨k, hk, hlacks, rfl⟩, hnot⟩ := h
    refine ⟨_, ⟨k, hk, rfl⟩, ?_, rfl⟩
    rw [Kept.add_flags, Finset.mem_union, mem_flagsSet, not_or]
    exact ⟨hlacks, hnot⟩

/-- The UIDs of the messages that are due, which a scan is to take up. -/
def Engine.dueUids (e : Engine) (fs : Folders) : Finset Int :=
  ((e.due fs).map (·.uid)).toFinset

theorem mem_dueUids {fs : Folders} {u : Int} : u ∈ e.dueUids fs ↔ ∃ k ∈ e.due fs, k.uid = u := by
  simp [Engine.dueUids]

theorem dueUids_subset {fs : Folders} : e.dueUids fs ⊆ unmarked fs := by
  intro u hu
  obtain ⟨k, hk, rfl⟩ := mem_dueUids.1 hu
  obtain ⟨hk, hlacks⟩ := Engine.mem_due hk
  exact mem_unmarked.2 ⟨k, hk, hlacks, rfl⟩

/-- As many are due as there are, up to the limit. -/
theorem card_dueUids {fs : Folders} (hin : ((fs inbox).map (·.uid)).Nodup) :
    (e.dueUids fs).card = min e.inboxLimit.toNat (unmarked fs).card := by
  have hunmarked : (((fs inbox).filter fun k => classifiedFlag ∉ k.flags).map (·.uid)).Nodup :=
    hin.sublist (List.filter_sublist.map _)
  rw [Engine.dueUids, List.toFinset_card_of_nodup (Engine.due_nodup hin), unmarked,
    List.toFinset_card_of_nodup hunmarked]
  simp [Engine.due, newest]

theorem Pass.Runs.unmarked_subset (h : p.Runs e entry) :
    unmarked p.after.folders ⊆ unmarked p.before.folders := by
  obtain ⟨judged, written, confirmed, counted, -, hfolders⟩ := h.ended
  rw [hfolders, unmarked_writeAll]
  exact Finset.filter_subset _ _

/-- A scan that does not fail marks all due messages. -/
theorem Ended.marks_due {g : Regime} {judged counted : List (Task × Category)}
    {written confirmed : List Write} {μ : Moment} {pr : Progress}
    (h : Ended e g s judged written confirmed counted μ pr) (hdone : pr.failure = none)
    (hhonest : g.honest) (hin : ((s.folders inbox).map (·.uid)).Nodup) :
    ∀ k ∈ e.due s.folders, marker k.uid ∈ written := by
  intro k hk
  obtain ⟨htasks, hrecent⟩ := h.complete hdone
  obtain ⟨-, hwritten⟩ := h.all_counted hdone
  have hreplies : List.Forall₂ (Snapshot e.transport.previewLength) (e.due s.folders)
      (repliesIn μ.pages) := hrecent.replies hhonest hin
  have hnodup : ((repliesIn μ.pages).map (·.uid)).Nodup := (hrecent.toListing.filter _).nodup
  obtain ⟨m, hm, hs⟩ := exists_of_forall₂ hreplies.flip hk
  -- The reply became a task, and the outcome of every task was written.
  have htask : taskFor (μ.pages.getD 1 []) m ∈ judged.map Prod.fst := by
    rw [htasks]
    exact (mem_tasksIn hnodup).2 ⟨m, hm, rfl⟩
  obtain ⟨x, hx, hxm⟩ := List.mem_map.1 htask
  have hu : x.1.reply.uid = k.uid := by rw [hxm, ← hs.uid_eq]; rfl
  rw [hwritten, ← hu]
  exact mem_plan.2 ⟨x, hx, mem_writesOf.2 ⟨mem_tags.2 (.inl rfl), .inl rfl⟩⟩

/-- A scan that does not fail marks as many messages as its limit allows. -/
theorem Pass.Runs.card_unmarked_le (h : p.Runs e entry) (hdone : p.result.failure = none)
    (hhonest : p.regime.honest) (hin : ((p.before.folders inbox).map (·.uid)).Nodup) :
    (unmarked p.after.folders).card
      ≤ (unmarked p.before.folders).card - e.inboxLimit.toNat := by
  obtain ⟨judged, written, confirmed, counted, hc, hfolders⟩ := h.ended
  have hmarked := hc.marks_due hdone hhonest hin
  have hafter : unmarked p.after.folders
      ⊆ unmarked p.before.folders \ e.dueUids p.before.folders := by
    rw [hfolders, unmarked_writeAll]
    intro u hu
    obtain ⟨hu, hnot⟩ := Finset.mem_filter.1 hu
    refine Finset.mem_sdiff.2 ⟨hu, fun hdue => hnot ?_⟩
    obtain ⟨k, hk, rfl⟩ := mem_dueUids.1 hdue
    exact hmarked k hk
  have hle := Finset.card_le_card hafter
  rw [Finset.card_sdiff_of_subset dueUids_subset, card_dueUids hin] at hle
  omega

/-- Nobody but the scans has brought messages without the marker. -/
def NoNews (s t : Site) : Prop := unmarked t.folders ⊆ unmarked s.folders

/-- By induction on the scans: each one that does not fail takes its share. -/
theorem Series.card_unmarked_le (h : Series e entry NoNews s₀ passes s)
    (hhonest : ∀ p ∈ passes, p.regime.honest)
    (hin : ∀ p ∈ passes, ((p.before.folders inbox).map (·.uid)).Nodup) :
    (unmarked s.folders).card ≤ (unmarked s₀.folders).card
      - passes.countP (fun p => p.result.failure.isNone) * e.inboxLimit.toNat := by
  induction h with
  | start => simp
  | @pass passes s p _ meanwhile run ih =>
    have hbefore := ih (fun q hq => hhonest q (List.mem_append_left _ hq))
      fun q hq => hin q (List.mem_append_left _ hq)
    have hgap := Finset.card_le_card meanwhile
    have hlast : p ∈ passes ++ [p] := by simp
    rw [List.countP_append, List.countP_singleton]
    split
    next hdone =>
      have hshare := run.card_unmarked_le (Option.isNone_iff_eq_none.1 hdone) (hhonest p hlast)
        (hin p hlast)
      rw [Nat.add_mul, Nat.one_mul]
      omega
    next =>
      have hle := Finset.card_le_card run.unmarked_subset
      rw [Nat.add_zero]
      omega

end

/-! ## §4. Nothing left to do. -/

/-- A question to the classifier, or a STORE. -/
def Works : Mailroom.Command → Prop
  | .classify _ | .imap (.store _ _ _) => True
  | _ => False

/-- Where a scan stands that found all messages marked: it has seen no replies. -/
structure Resting (e : Engine) (fs : Folders) (tr : List Event) (s : Site) : Prop where
  folders : s.folders = fs
  selected : ∀ x, selection tr = some x → s.selected = some x
  replies : repliesIn (pages e.transport.previewLength tr) = []
  rests : ∀ ev ∈ tr, ¬ Works ev.1

section

variable {e : Engine} {g : Regime} {fs : Folders} {tr : List Event} {s s' : Site} {id : Int}

theorem tasksIn_eq_nil {pages : List (List Message)} (h : repliesIn pages = []) :
    tasksIn pages = [] := by
  unfold tasksIn matchingIn
  rw [h]
  rfl

theorem Resting.concat (h : Resting e fs tr s) {c : Mailroom.Command} {r : c.Answer}
    (hworks : ¬ Works c) (hfolders : s'.folders = s.folders)
    (hselected : ∀ x, selectionAfter (selection tr) ⟨c, r⟩ = some x → s'.selected = some x)
    (hreplies : repliesIn (pages e.transport.previewLength (tr ++ [⟨c, r⟩])) = []) :
    Resting e fs (tr ++ [⟨c, r⟩]) s' where
  folders := hfolders.trans h.folders
  selected x hx := hselected x (by rwa [selection_concat] at hx)
  replies := hreplies
  rests ev hev := by
    rcases List.mem_append.1 hev with hev | hev
    · exact h.rests ev hev
    · rw [List.mem_singleton.1 hev]
      exact hworks

theorem Resting.silent (h : Resting e fs tr s) {c : Mailroom.Command} {r : c.Answer}
    (hc : Silent c) (hworks : ¬ Works c) (hr : g.law s c r s')
    (hselected : ∀ x, selectionAfter (selection tr) ⟨c, r⟩ = some x → s'.selected = some x) :
    Resting e fs (tr ++ [⟨c, r⟩]) s' := by
  have hμ : moment e.transport.previewLength (tr ++ [⟨c, r⟩]) s' = moment _ tr s :=
    moment_silent hc hr
  refine h.concat hworks (congrArg Moment.folders hμ) hselected ?_
  rw [show pages _ (tr ++ [⟨c, r⟩]) = pages _ tr from congrArg Moment.pages hμ]
  exact h.replies

/-- No reply is seen on a page of messages that all carry the marker. -/
theorem selected_unclassified_eq_nil {p : Int} {uids : List Int} {kept : List Kept}
    {r : Except Imap.Fault Response} {page : List Message}
    (hmarked : ∀ k ∈ kept, classifiedFlag ∈ k.flags)
    (hshown : ∀ items found, accepted? r = some items → readFetch items = .ok found →
      Shown g.honest uids kept found)
    (hpage : messagesOf p r = some page) : selected unclassified page = [] := by
  obtain ⟨items, found, ms, ha, hf, hread, rfl⟩ := messagesOf_eq_some hpage
  have hexcerpt := Excerpt.of_shown (hshown items found ha hf) hread
  refine List.filter_eq_nil_iff.2 fun m hm => ?_
  obtain ⟨k, hk, hs⟩ := hexcerpt.truthful m hm
  simpa [unclassified, Filter.Expr.holds] using hs.mem_flags.2 (hmarked k hk)

/-- **One step of a scan that found all messages marked.** -/
theorem Resting.step (h : Resting e fs tr s) (hall : unmarked fs = ∅) {c : Mailroom.Command}
    {r : c.Answer} (hc : conduct e id tr c) (hr : g.law s c r s') :
    Resting e fs (tr ++ [⟨c, r⟩]) s' := by
  have hnone : tasksIn (pages e.transport.previewLength tr) = [] := tasksIn_eq_nil h.replies
  match c, r, hc, hr with
  | .classify _, _, ⟨t, ht, _⟩, _ | .imap (.store _ _ _), _, ⟨_, _, _, _, t, _, _, ht, _⟩, _ =>
    rw [hnone] at ht
    cases ht
  | .get _, _, _, hr | .draw, _, _, hr | .sleep _, _, _, hr =>
    exact h.silent trivial not_false hr fun x hx => by cases hr; exact h.selected x hx
  | .connect _, _, _, hr => exact h.silent trivial not_false hr nofun
  | .imap (.select _ _), _, _, hr =>
    refine h.silent trivial not_false hr fun x hx => ?_
    obtain ⟨-, rfl⟩ := hr
    exact hx
  | .imap .startTls, _, _, hr | .imap (.login _ _), _, _, hr | .imap .logout, _, _, hr =>
    exact h.silent trivial not_false hr fun x hx => by cases hr.2; exact h.selected x hx
  | .imap (.search _), _, _, hr | .imap .list, _, _, hr =>
    exact h.silent trivial not_false hr fun x hx => by cases hr.2.1; exact h.selected x hx
  | .imap (.fetch uids), r, ⟨folder, hsel, _, hfolder⟩, hr =>
    obtain ⟨-, rfl, hshown⟩ := hr
    refine h.concat not_false rfl (fun x hx => h.selected x hx) ?_
    have hpages := (Onward.concat e.transport.previewLength tr ⟨.imap (.fetch uids), r⟩).pages
    rw [hpages]
    cases hpage : pageIn e.transport.previewLength ⟨.imap (.fetch uids), r⟩ with
    | none => simpa using h.replies
    | some page =>
      -- The first page is one of the inbox; later ones add no replies.
      rcases hfolder with ⟨hfirst, rfl⟩ | ⟨hlater, -⟩
      · rw [hfirst]
        refine selected_unclassified_eq_nil (g := g) (fun k hk => ?_)
          (fun items found => hshown inbox true items found (h.selected _ hsel)) hpage
        exact marked_of_unmarked_eq_empty hall k (h.folders ▸ hk)
      · obtain ⟨first, rest, heq⟩ := List.exists_cons_of_ne_nil hlater
        have hreplies := h.replies
        rw [heq] at hreplies ⊢
        exact hreplies

/-- **A scan that finds all messages marked** asks the classifier nothing and sets no
flag. -/
theorem rests_of_unmarked {entry : Directory.Entry} {d : Dialogue Progress}
    (hall : unmarked s.folders = ∅)
    (hrun : Dialogue.Reaches g.law (e.scanEntry entry) s tr d s') : ∀ ev ∈ tr, ¬ Works ev.1 := by
  have hstart : Resting e s.folders [] s := ⟨rfl, nofun, rfl, by simp⟩
  exact (scanEntry_preserves hrun hstart fun tr s c r s' hc hr h => h.step hall hc hr).rests

end

/-! ## §5. Any number of scans. -/

/-- **Exactly once.**  Whatever scans of an account find and wherever they fail, they count
a reply once at most, as long as the marker is not taken away from it in between.  And
where nobody brings messages without the marker, searches are correct, and the limits of
the scans that did not fail make up for the messages that lacked it at first, all messages
of the inbox carry the marker; a further scan then asks the classifier nothing and sets no
flag, at any moment and whatever the circumstances. -/
theorem exactly_once (e : Engine) (entry : Directory.Entry) {gap : Site → Site → Prop}
    {s₀ s : Site} {passes : List Pass} (hpasses : Series e entry gap s₀ passes s) :
    (∀ u, passes.Pairwise (fun p q => SomeMarked p.after u → AllMarked q.before u) →
      (answersCounted e (passes.map Pass.outcome) u).length ≤ 1) ∧
    ((∀ s t, gap s t → NoNews s t) → (∀ p ∈ passes, p.regime.honest) →
      (∀ p ∈ passes, ((p.before.folders inbox).map (·.uid)).Nodup) →
      ((s₀.folders inbox).filter fun k => classifiedFlag ∉ k.flags).length
        ≤ passes.countP (fun p => p.result.failure.isNone) * e.inboxLimit →
      (∀ k ∈ s.folders inbox, classifiedFlag ∈ k.flags) ∧
      ∀ (g : Regime) (t t' : Site) (tr : List Event) (d : Dialogue Progress), gap s t →
        Dialogue.Reaches g.law (e.scanEntry entry) t tr d t' → ∀ ev ∈ tr, ¬ Works ev.1) := by
  refine ⟨fun u hkept => answersCounted_length_le hpasses.runs hkept,
    fun hgap hhonest hin henough => ?_⟩
  have hcard := (hpasses.mono hgap).card_unmarked_le hhonest hin
  have hfirst : (unmarked s₀.folders).card
      ≤ ((s₀.folders inbox).filter fun k => classifiedFlag ∉ k.flags).length :=
    (List.toFinset_card_le _).trans (List.length_map _).le
  have hlimit : ((passes.countP fun p => p.result.failure.isNone) * e.inboxLimit : Int)
      ≤ ((passes.countP fun p => p.result.failure.isNone) * e.inboxLimit.toNat : Nat) := by
    push_cast
    exact mul_le_mul_of_nonneg_left (Int.self_le_toNat _) (Int.natCast_nonneg _)
  have hnone : unmarked s.folders = ∅ := by
    rw [← Finset.card_eq_zero]
    omega
  refine ⟨marked_of_unmarked_eq_empty hnone, fun g t t' tr d hst hrun => ?_⟩
  refine rests_of_unmarked (Finset.subset_empty.1 ?_) hrun
  rw [← hnone]
  exact hgap s t hst

/-! A scan that fails at the marker, one that does not, and one more. -/

namespace Sample

/-- The scan of the mailbox on a server. -/
def scanOn (r : Reference) (s : Site) : Pass where
  regime := r.regime
  before := s
  events := scan.trace r.answer s
  result := (scan.run r.answer s).1
  after := (scan.run r.answer s).2

theorem scanOn_before (r : Reference) (s : Site) : (scanOn r s).before = s := rfl

theorem scanOn_reaches (r : Reference) (s : Site) :
    Dialogue.Reaches r.regime.law (engine.scanEntry entry) s (scanOn r s).events
      (.pure (scanOn r s).result) (scanOn r s).after :=
  Dialogue.ends_run r.lawful scan s

theorem series_scanOn (r₁ r₂ : Reference) (s : Site) :
    Series engine entry Eq s [scanOn r₁ s, scanOn r₂ (scanOn r₁ s).after]
      (scanOn r₂ (scanOn r₁ s).after).after :=
  .pass (p := scanOn r₂ (scanOn r₁ s).after)
    (.pass (p := scanOn r₁ s) .start rfl (scanOn_reaches r₁ s)) rfl (scanOn_reaches r₂ _)

/-- The scan that fails. -/
def failing : Pass := scanOn flaky site

/-- The scan that makes up for it. -/
def mending : Pass := scanOn server failing.after

theorem series : Series engine entry Eq site [failing, mending] mending.after :=
  series_scanOn flaky server site

/-- The first scan left the reply without the marker, and the second one does not fail. -/
theorem failing_mending : failing.after.folders inbox = [reply.add {"interested"}] ∧
    mending.result.failure.isNone := by decide +kernel

end Sample

open Sample in
theorem exactly_once_sample :
    (answersCounted engine ([failing, mending].map Pass.outcome) 3).length ≤ 1 ∧
      (∀ k ∈ mending.after.folders inbox, classifiedFlag ∈ k.flags) ∧
      ∀ ev ∈ (scanOn server mending.after).events, ¬ Works ev.1 := by
  obtain ⟨hhalfway, hmends⟩ := failing_mending
  obtain ⟨honce, hall⟩ := exactly_once engine entry series
  have hhonest : ∀ p ∈ [failing, mending], p.regime.honest :=
    List.forall_mem_cons.2 ⟨trivial, List.forall_mem_singleton.2 trivial⟩
  have hkept : [failing, mending].Pairwise fun p q =>
      SomeMarked p.after 3 → AllMarked q.before 3 := by
    refine List.pairwise_pair.2 fun h => absurd h ?_
    rw [SomeMarked, hhalfway]
    decide
  have hin : ∀ p ∈ [failing, mending], ((p.before.folders inbox).map (·.uid)).Nodup := by
    refine List.forall_mem_cons.2 ⟨by decide, List.forall_mem_singleton.2 ?_⟩
    rw [show mending.before = failing.after from scanOn_before server _, hhalfway]
    decide
  have henough : ((site.folders inbox).filter fun k => classifiedFlag ∉ k.flags).length
      ≤ [failing, mending].countP (fun p => p.result.failure.isNone) * engine.inboxLimit := by
    have hfew : ((site.folders inbox).filter fun k => classifiedFlag ∉ k.flags).length = 1 := by
      decide
    have hlimit : engine.inboxLimit = 50 := rfl
    have hmore : 0 < [failing, mending].countP fun p => p.result.failure.isNone :=
      List.countP_pos_iff.2 ⟨mending, List.mem_cons_of_mem _ List.mem_cons_self, hmends⟩
    rw [hfew, hlimit]
    omega
  obtain ⟨hmarked, hrests⟩ := hall (fun s t h => h ▸ Finset.Subset.refl _) hhonest
    hin henough
  exact ⟨honce 3 hkept, hmarked, hrests _ _ _ _ _ rfl (scanOn_reaches server mending.after)⟩

end Mailroom.Scan
