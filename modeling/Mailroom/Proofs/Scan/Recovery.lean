import Mathlib
import Mailroom.Proofs.Scan.FinalState
/-!
  Mailroom.Proofs.Scan.Recovery
  ────────────────────────────────
  **SCANS THAT FAIL ARE MADE UP FOR BY A LATER ONE.**

  Scans of an account follow each other, and each may fail anywhere.  Seen from the
  folders as they were before the first, what was written so far is a set of
  writes: for some messages the whole outcome, the marker included, for the others
  a part without the marker.  Every scan keeps to that and counts the messages for
  which it completes the outcome; one that does not fail completes them all.

      Scans          — scans one after the other
      Recovering     — what they wrote and counted so far
      crash_recovery — the last one leaves what a single clean scan would have left
-/
namespace Mailroom.Scan

open Mailroom.Imap Mailroom.Mail Mailroom.Reply

/-! ## §1. Scans one after the other. -/

/-- Whole scans of an account, with the events and the result of each. -/
inductive Scans (e : Engine) (g : Regime) (entry : Directory.Entry) (s₀ : Site) :
    List (List Event × Progress) → Site → Prop
  | none : Scans e g entry s₀ [] s₀
  | scan {runs : List (List Event × Progress)} {s t : Site} {tr : List Event} {pr : Progress}
      (before : Scans e g entry s₀ runs s)
      (last : Dialogue.Ends g.law (e.scanEntry entry) s tr pr t) :
      Scans e g entry s₀ (runs ++ [(tr, pr)]) t

/-- The number of replies of a category that some scans counted. -/
def counted (runs : List (List Event × Progress)) (c : Category) : Nat :=
  (runs.map fun run => run.2.result.count c).sum

theorem counted_concat (runs : List (List Event × Progress)) (tr : List Event) (pr : Progress)
    (c : Category) : counted (runs ++ [(tr, pr)]) c = counted runs c + pr.result.count c := by
  simp [counted]

/-! ## §2. Folders after some writes. -/

section Writes

variable (e : Engine) (sent : String) (fs : Folders) (J : List Write)

/-- The message of a folder with the flags that some writes set. -/
def written (n : String) (k : Kept) : Kept := k.add (flagsSet J n k.uid)

/-- The messages that are still to be classified after some writes. -/
def Engine.left : List Kept :=
  newest e.inboxLimit ((fs inbox).filter fun k => classifiedFlag ∉ k.flags ∧ marker k.uid ∉ J)

variable {e sent fs J}

theorem newest_map {n : Int} {f : Kept → Kept} (hf : ∀ k, (f k).uid = k.uid) (kept : List Kept) :
    newest n (kept.map f) = (newest n kept).map f := by
  -- A change that keeps UIDs commutes with the sorting by them.
  unfold newest
  rw [List.map_take]
  congr 1
  exact (List.map_mergeSort fun a _ b _ => by rw [hf, hf]).symm

theorem due_writeAll : e.due (fs.writeAll J) = (e.left fs J).map (written J inbox) := by
  unfold Engine.due Engine.left
  rw [Folders.writeAll_apply]
  have hfilter : ((fs inbox).map fun k => k.add (flagsSet J inbox k.uid)).filter
        (fun k => classifiedFlag ∉ k.flags)
      = ((fs inbox).filter fun k => classifiedFlag ∉ k.flags ∧ marker k.uid ∉ J).map
        (written J inbox) := by
    rw [List.filter_map]
    congr 1
    apply List.filter_congr
    intro k _
    simp
  rw [hfilter]
  exact newest_map (f := written J inbox) (fun _ => rfl) _

variable (e sent fs J)

theorem partner?_writeAll (n : String) (k : Kept) :
    (e.partner? sent (fs.writeAll J) (written J n k)).map (·.uid)
      = (e.partner? sent fs k).map (·.uid) := by
  have hrecent : e.recent sent (fs.writeAll J) = (e.recent sent fs).map (written J sent) := by
    unfold Engine.recent
    rw [Folders.writeAll_apply]
    exact newest_map (f := written J sent) (fun _ => rfl) _
  unfold Engine.partner?
  rw [hrecent, List.find?_map, Option.map_map]
  rfl

theorem isSome_partner?_writeAll (n : String) (k : Kept) :
    (e.partner? sent (fs.writeAll J) (written J n k)).isSome = (e.partner? sent fs k).isSome := by
  have h := congrArg Option.isSome (partner?_writeAll e sent fs J n k)
  rwa [Option.isSome_map, Option.isSome_map] at h

theorem outcome_writeAll (n : String) (k : Kept) (c : Category) :
    e.outcome sent (fs.writeAll J) (written J n k) c = e.outcome sent fs k c := by
  have h := congrArg (Option.map (Place.mk sent)) (partner?_writeAll e sent fs J n k)
  rw [Option.map_map, Option.map_map] at h
  unfold Engine.outcome
  exact congrArg (writesOf c ⟨inbox, k.uid⟩) h

variable {e sent fs J}

/-- A task of a message is one of the message as it was before. -/
theorem Becomes.of_writeAll {n : String} {k : Kept} {t : Task}
    (h : Becomes e sent (fs.writeAll J) (written J n k) t) : Becomes e sent fs k t where
  uid := h.uid
  question := h.question
  writes c := (h.writes c).trans (outcome_writeAll e sent fs J n k c)

/-- If all unclassified messages are due at first, all that are left are due. -/
theorem mem_left {k : Kept}
    (hfew : ((fs inbox).filter fun k => classifiedFlag ∉ k.flags).length ≤ e.inboxLimit) :
    k ∈ e.left fs J ↔ k ∈ e.due fs ∧ marker k.uid ∉ J := by
  -- With so few unclassified messages the limit cuts nothing off.
  have hall : ∀ f : Kept → Bool, (∀ k, f k = true → classifiedFlag ∉ k.flags) →
      ∀ k, k ∈ newest e.inboxLimit ((fs inbox).filter f) ↔ k ∈ (fs inbox).filter f := by
    intro f hf k
    have hle : ((fs inbox).filter f).length
        ≤ ((fs inbox).filter fun k => classifiedFlag ∉ k.flags).length :=
      (List.monotone_filter_right _ fun k hk => by simpa using hf k hk).length_le
    unfold newest
    rw [List.take_of_length_le (by rw [List.length_mergeSort]; omega), List.mem_mergeSort]
  unfold Engine.left Engine.due
  rw [hall _ fun k hk => (of_decide_eq_true hk).1, hall _ fun k hk => of_decide_eq_true hk]
  simp only [List.mem_filter, decide_eq_true_eq]
  tauto

theorem worklist_writeAll : e.worklist sent (fs.writeAll J)
    = ((e.left fs J).filter (fun k => (e.partner? sent fs k).isSome)
      ++ (e.left fs J).filter fun k => (e.partner? sent fs k).isNone).map (written J inbox) := by
  unfold Engine.worklist
  rw [due_writeAll, List.map_append, List.filter_map, List.filter_map]
  congr 2
  · exact List.filter_congr fun k _ => isSome_partner?_writeAll e sent fs J inbox k
  · refine List.filter_congr fun k _ => ?_
    rw [Function.comp_apply, ← Option.not_isSome, isSome_partner?_writeAll, Option.not_isSome]

/-- The tasks judged by a scan that starts after some writes, and the messages behind
them as they were before. -/
theorem Course.kept_left {g : Regime} {s : Site} {judged : List (Task × Category)}
    {ws confirmed : List Write} {μ : Moment} (h : Course e g s judged ws confirmed μ)
    (hhonest : g.honest) (hin : ((fs inbox).map (·.uid)).Nodup)
    (hout : ((fs g.sent).map (·.uid)).Nodup) (hs : s.folders = fs.writeAll J) :
    ∃ ks : List Kept, (ks.map (·.uid)).Nodup ∧ (∀ k ∈ ks, k ∈ e.left fs J) ∧
      List.Forall₂ (Becomes e g.sent fs) ks (judged.map Prod.fst) ∧
      (judged.length = (e.worklist g.sent s.folders).length → ∀ k ∈ e.left fs J, k ∈ ks) := by
  obtain ⟨ys, hys, hstand⟩ := h.kept hhonest (by rw [hs, Folders.writeAll_uids]; exact hin)
    (by rw [hs, Folders.writeAll_uids]; exact hout)
  have hnodup : ((ys.map Prod.fst).map (·.uid)).Nodup := by
    have hw : ((e.worklist g.sent s.folders).map (·.uid)).Nodup :=
      Engine.worklist_nodup (by rw [hs, Folders.writeAll_uids]; exact hin)
    exact hw.sublist (hys.sublist.map _)
  have hlength := hstand.length_eq
  rw [hs] at hys hstand ⊢
  rw [worklist_writeAll] at hys ⊢
  generalize hL : (e.left fs J).filter (fun k => (e.partner? g.sent fs k).isSome)
    ++ (e.left fs J).filter (fun k => (e.partner? g.sent fs k).isNone) = L at hys ⊢
  have hmem : ∀ k, k ∈ L ↔ k ∈ e.left fs J := by
    intro k
    rw [← hL, List.mem_append, List.mem_filter, List.mem_filter]
    cases (e.partner? g.sent fs k) <;> simp
  -- The messages of the worklist are the same messages with some flags more.
  have htake : ys.map Prod.fst = (L.take ys.length).map (written J inbox) := by
    rw [List.map_take]
    simpa using List.prefix_iff_eq_take.1 hys
  refine ⟨L.take ys.length, ?_, ?_, ?_, ?_⟩
  · rw [htake, List.map_map] at hnodup
    exact hnodup
  · exact fun k hk => (hmem k).1 (List.mem_of_mem_take hk)
  · have hbecome : List.Forall₂ (Becomes e g.sent (fs.writeAll J)) (ys.map Prod.fst)
        (judged.map Prod.fst) := by
      rw [List.forall₂_map_left_iff, List.forall₂_map_right_iff]
      exact hstand.imp fun y x hyx => hyx.toBecomes
    rw [htake, List.forall₂_map_left_iff] at hbecome
    exact hbecome.imp fun k t hk => hk.of_writeAll
  · intro hall k hk
    rw [List.length_map] at hall
    rw [List.take_of_length_le (by omega)]
    exact (hmem k).2 hk

end Writes

/-! ## §3. What some scans wrote and counted. -/

/-- The classifier's answer depends on the question only. -/
def Steady (g : Regime) (judge : Question → Category) : Prop := ∀ q c, States g q c → c = judge q

/-- The category of a message, when answers depend on the question only. -/
def Engine.verdict (e : Engine) (judge : Question → Category) (k : Kept) : Category :=
  ((e.question? k).map judge).getD .none

/-- What some scans wrote to the folders `fs` so far, and counted: only outcomes of due
messages, each of them whole as soon as it has its marker, and then it is counted. -/
structure Recovering (e : Engine) (g : Regime) (judge : Question → Category) (fs : Folders)
    (total : Category → Nat) (s : Site) (J : List Write) : Prop where
  folders : s.folders = fs.writeAll J
  sound : ∀ w ∈ J, ∃ k ∈ e.due fs, w ∈ e.outcome g.sent fs k (e.verdict judge k)
  whole : ∀ k ∈ e.due fs, marker k.uid ∈ J →
    ∀ w ∈ e.outcome g.sent fs k (e.verdict judge k), w ∈ J
  counts : ∀ c, total c
    = (e.due fs).countP fun k => marker k.uid ∈ J ∧ e.verdict judge k = c

theorem countP_add_countP {α : Type} {p q : α → Bool} {as : List α}
    (h : ∀ a ∈ as, p a = true → q a = false) :
    as.countP p + as.countP q = as.countP fun a => p a || q a := by
  induction as with
  | nil => rfl
  | cons a as ih =>
    have ha := h a List.mem_cons_self
    have hs := ih fun b hb => h b (List.mem_cons_of_mem _ hb)
    rw [List.countP_cons, List.countP_cons, List.countP_cons, ← hs]
    cases hp : p a <;> cases hq : q a <;> simp_all <;> omega

theorem Steady.category {e : Engine} {g : Regime} {judge : Question → Category} {fs : Folders}
    (h : Steady g judge) {k : Kept} {t : Task} {c : Category} (hk : Becomes e g.sent fs k t)
    (hc : States g (t.question e.classifier) c) : c = e.verdict judge k := by
  rw [Engine.verdict, hk.question]
  exact h _ _ hc

section Step

variable {e : Engine} {g : Regime} {judge : Question → Category} {fs : Folders}
  {total : Category → Nat} {s : Site} {J : List Write}

/-- A scan counts the due messages whose marker it wrote. -/
theorem Ended.count_eq {ws : List Write} {judged done : List (Task × Category)} {μ : Moment}
    {pr : Progress} (h : Ended e g s judged ws ws done μ pr) (hsteady : Steady g judge)
    (hsent : g.sent ≠ inbox) (hin : ((fs inbox).map (·.uid)).Nodup) {ks : List Kept}
    (hnodup : (ks.map (·.uid)).Nodup) (hks : ∀ k ∈ ks, k ∈ e.due fs)
    (hbecome : List.Forall₂ (Becomes e g.sent fs) ks (judged.map Prod.fst)) (c : Category) :
    pr.result.count c
      = (e.due fs).countP fun k => marker k.uid ∈ ws ∧ e.verdict judge k = c := by
  have hinitial := h.prefix_judged
  obtain ⟨cs, hcs, hdone⟩ := forall₂_of_prefix hbecome (hinitial.map Prod.fst)
  -- The categories counted are the verdicts on the messages behind the tasks.
  have hcategories : done.map Prod.snd = cs.map (e.verdict judge) := by
    rw [List.forall₂_map_right_iff] at hdone
    have hstated : ∀ x ∈ done, States g (x.1.question e.classifier) x.2 := fun x hx =>
      h.stated x (hinitial.mem hx)
    clear hcs hinitial h
    induction hdone with
    | nil => rfl
    | cons hb _ ih =>
      rw [List.map_cons, List.map_cons, ih fun x hx => hstated x (List.mem_cons_of_mem _ hx),
        hsteady.category hb (hstated _ List.mem_cons_self)]
  -- The counted messages are the due ones whose marker was written.
  have hmem : ∀ k, k ∈ cs ↔ k ∈ e.due fs ∧ marker k.uid ∈ ws := by
    intro k
    rw [h.marker_mem_iff hsent]
    constructor
    · intro hk
      obtain ⟨t, ht, hb⟩ := exists_of_forall₂ hdone.flip hk
      obtain ⟨x, hx, rfl⟩ := List.mem_map.1 ht
      exact ⟨hks k (hcs.mem hk), x, hx, hb.uid⟩
    · intro h
      obtain ⟨hk, x, hx, hu⟩ := h
      obtain ⟨l, hl, hb⟩ := exists_of_forall₂ hdone (List.mem_map_of_mem hx)
      obtain rfl : k = l := List.inj_on_of_nodup_map (Engine.due_nodup hin) hk
        (hks l (hcs.mem hl)) (hu.symm.trans hb.uid)
      exact hl
  have hperm : cs.Perm ((e.due fs).filter fun k => marker k.uid ∈ ws) := by
    refine (List.perm_ext_iff_of_nodup ?_ ?_).2 fun k => ?_
    · exact (hnodup.sublist (hcs.sublist.map _)).of_map
    · exact (Engine.due_nodup hin).of_map.filter _
    · rw [hmem, List.mem_filter, decide_eq_true_eq]
  unfold AccountResult.count
  rw [h.outcomes, hcategories, List.count_eq_countP, List.countP_map, hperm.countP_eq,
    List.countP_filter]
  exact List.countP_congr fun k _ => by simp [and_comm]

theorem Recovering.start (hs : s.folders = fs) :
    Recovering e g judge fs (fun _ => 0) s [] where
  folders := hs
  sound := by simp
  whole := by simp
  counts c := by simp

/-- **A scan keeps to it**: it completes outcomes, and counts those it completes; if it
does not fail, it completes all. -/
theorem Recovering.scan {entry : Directory.Entry} {t : Site} {tr : List Event} {pr : Progress}
    (h : Recovering e g judge fs total s J) (hhonest : g.honest) (htorn : ¬ g.torn)
    (hsteady : Steady g judge) (hsent : g.sent ≠ inbox)
    (hin : ((fs inbox).map (·.uid)).Nodup) (hout : ((fs g.sent).map (·.uid)).Nodup)
    (hfew : ((fs inbox).filter fun k => classifiedFlag ∉ k.flags).length ≤ e.inboxLimit)
    (hrun : Dialogue.Ends g.law (e.scanEntry entry) s tr pr t) :
    ∃ J', Recovering e g judge fs (fun c => total c + pr.result.count c) t J' ∧
      (pr.failure = none → ∀ k ∈ e.due fs, marker k.uid ∈ J') := by
  obtain ⟨judged, ws, done, hc⟩ := scanEntry_confirmed htorn hrun
  obtain ⟨ks, hnodup, hleft, hbecome, hall⟩ := hc.kept_left hhonest hin hout h.folders
  have hks : ∀ k ∈ ks, k ∈ e.due fs ∧ marker k.uid ∉ J := fun k hk =>
    (mem_left hfew).1 (hleft k hk)
  have hjudged : ∀ x ∈ judged, ∃ k ∈ ks, x.1.reply.uid = k.uid ∧
      x.1.writes g.sent x.2 = e.outcome g.sent fs k (e.verdict judge k) := by
    intro x hx
    obtain ⟨k, hk, hb⟩ := exists_of_forall₂ hbecome (List.mem_map_of_mem hx)
    exact ⟨k, hk, hb.uid, by rw [hb.writes, hsteady.category hb (hc.stated x hx)]⟩
  -- A marker that this scan wrote is that of a message it judged, with all of its outcome.
  have hmarked : ∀ k ∈ e.due fs, marker k.uid ∈ ws →
      k ∈ ks ∧ ∀ w ∈ e.outcome g.sent fs k (e.verdict judge k), w ∈ ws := by
    intro k hk hm
    obtain ⟨x, hx, hu, hall⟩ := exists_of_marker_mem hsent hc.begun hm
    obtain ⟨l, hl, hlu, hwrites⟩ := hjudged x hx
    obtain rfl : k = l := List.inj_on_of_nodup_map (Engine.due_nodup hin) hk (hks l hl).1
      (hu.symm.trans hlu)
    exact ⟨hl, hwrites ▸ hall⟩
  refine ⟨J ++ ws, ⟨?_, ?_, ?_, ?_⟩, ?_⟩
  · have hfolders : t.folders = s.folders.writeAll ws := hc.folders
    rw [hfolders, h.folders, Folders.writeAll_append]
  · intro w hw
    rcases List.mem_append.1 hw with hw | hw
    · exact h.sound w hw
    · obtain ⟨x, hx, hxw⟩ := mem_plan.1 (hc.begun.mem hw)
      obtain ⟨k, hk, -, hwrites⟩ := hjudged x hx
      exact ⟨k, (hks k hk).1, hwrites ▸ hxw⟩
  · intro k hk hm w hw
    rcases List.mem_append.1 hm with hm | hm
    · exact List.mem_append_left _ (h.whole k hk hm w hw)
    · exact List.mem_append_right _ ((hmarked k hk hm).2 w hw)
  · intro c
    rw [h.counts c, hc.count_eq hsteady hsent hin hnodup (fun k hk => (hks k hk).1) hbecome c,
      countP_add_countP]
    · refine List.countP_congr fun k _ => ?_
      simp only [Bool.or_eq_true, decide_eq_true_eq, List.mem_append]
      tauto
    · intro k hk hm
      simp only [decide_eq_true_eq, decide_eq_false_iff_not] at hm ⊢
      exact fun hm' => (hks k (hmarked k hk hm'.1).1).2 hm.1
  · intro hdone k hk
    -- A due message has its marker from before, or it was on the worklist of this scan.
    by_cases hm : marker k.uid ∈ J
    · exact List.mem_append_left _ hm
    · have hin' : ((s.folders inbox).map (·.uid)).Nodup := by
        rw [h.folders, Folders.writeAll_uids]
        exact hin
      have hout' : ((s.folders g.sent).map (·.uid)).Nodup := by
        rw [h.folders, Folders.writeAll_uids]
        exact hout
      obtain ⟨ys, hys, hstand, -, -⟩ := hc.worked hdone hhonest hin' hout'
      have hkmem : k ∈ ks := by
        refine hall ?_ k ((mem_left hfew).2 ⟨hk, hm⟩)
        rw [← hys, List.length_map, hstand.length_eq]
      obtain ⟨t, ht, hb⟩ := exists_of_forall₂ hbecome.flip hkmem
      obtain ⟨x, hx, rfl⟩ := List.mem_map.1 ht
      rw [(hc.all_counted hdone).1] at hx
      exact List.mem_append_right _ ((hc.marker_mem_iff hsent).2 ⟨x, hx, hb.uid⟩)

/-- When all due messages have their markers, the folders and the counts are known. -/
theorem Recovering.recovered (h : Recovering e g judge fs total s J)
    (hall : ∀ k ∈ e.due fs, marker k.uid ∈ J) :
    s.folders = fs.writeAll
        ((e.due fs).flatMap fun k => e.outcome g.sent fs k (e.verdict judge k)) ∧
      ∀ c, total c = (e.due fs).countP fun k => e.verdict judge k = c := by
  refine ⟨?_, fun c => ?_⟩
  · rw [h.folders]
    apply Folders.writeAll_congr
    intro w
    rw [List.mem_flatMap]
    constructor
    · exact h.sound w
    · intro h
      obtain ⟨k, hk, hw⟩ := h
      exact h.whole k hk (hall k hk) w hw
  · rw [h.counts c]
    exact List.countP_congr fun k hk => by simp [hall k hk]

end Step

/-- **Recovery.**  After scans that may have failed anywhere, a scan that does not fail
leaves the folders as a single such scan of the first folders leaves them, and all
together have counted what that one counts. -/
theorem crash_recovery (e : Engine) (g : Regime) (entry : Directory.Entry)
    (judge : Question → Category) {s₀ s t t₀ : Site} {runs : List (List Event × Progress)}
    {tr tr₀ : List Event} {pr pr₀ : Progress} (hhonest : g.honest) (htorn : ¬ g.torn)
    (hsteady : Steady g judge) (hsent : g.sent ≠ inbox)
    (hin : ((s₀.folders inbox).map (·.uid)).Nodup)
    (hout : ((s₀.folders g.sent).map (·.uid)).Nodup)
    (hfew : ((s₀.folders inbox).filter fun k => classifiedFlag ∉ k.flags).length ≤ e.inboxLimit)
    (hscans : Scans e g entry s₀ runs s)
    (hlast : Dialogue.Ends g.law (e.scanEntry entry) s tr pr t) (hdone : pr.failure = none)
    (hclean : Dialogue.Ends g.law (e.scanEntry entry) s₀ tr₀ pr₀ t₀)
    (hclean' : pr₀.failure = none) :
    t.folders = t₀.folders ∧ ∀ c, counted runs c + pr.result.count c = pr₀.result.count c := by
  have hstart : Recovering e g judge s₀.folders (fun _ => 0) s₀ [] := .start rfl
  -- The invariant is carried through the scans by induction, starting with no writes.
  have hruns : ∃ J, Recovering e g judge s₀.folders (counted runs) s J := by
    clear hlast hdone
    induction hscans with
    | none => exact ⟨[], hstart⟩
    | @scan runs s t tr pr _ last ih =>
      obtain ⟨J, hJ⟩ := ih
      obtain ⟨J', hJ', -⟩ := hJ.scan hhonest htorn hsteady hsent hin hout hfew last
      have hcounted : counted (runs ++ [(tr, pr)]) = fun c => counted runs c + pr.result.count c :=
        funext (counted_concat runs tr pr)
      exact ⟨J', hcounted ▸ hJ'⟩
  obtain ⟨J, hJ⟩ := hruns
  -- The last scan and the clean one both complete all due messages.
  obtain ⟨J₁, h₁, hall₁⟩ := hJ.scan hhonest htorn hsteady hsent hin hout hfew hlast
  obtain ⟨J₂, h₂, hall₂⟩ := hstart.scan hhonest htorn hsteady hsent hin hout hfew hclean
  obtain ⟨hfolders₁, hcounts₁⟩ := h₁.recovered (hall₁ hdone)
  obtain ⟨hfolders₂, hcounts₂⟩ := h₂.recovered (hall₂ hclean')
  refine ⟨hfolders₁.trans hfolders₂.symm, fun c => ?_⟩
  have hsame := (hcounts₁ c).trans (hcounts₂ c).symm
  simpa using hsame

/-! ## §4. A scan that fails and one that does not. -/

namespace Sample

/-- The server when it refuses to set the marker of the reply. -/
def flaky : Reference := { server with
  refuses := fun
    | .store uid .add flag => uid == 3 && flag == classifiedFlag
    | _ => false }

/-- The server after a scan that failed. -/
def halfway : Site := (scan.run flaky.answer site).2

theorem steady : Steady server.regime fun _ => .interested := by
  intro q c h
  obtain ⟨r, rfl, hc⟩ := h
  have hsame : categoryIn (answering "interested") = some .interested := by decide +kernel
  exact Option.some.inj (hc.symm.trans hsame)

end Sample

open Sample in
theorem crash_recovery_sample :
    ((scan.run flaky.answer site).1.failure.isSome ∧
      (scan.run flaky.answer site).2.folders inbox ≠ site.folders inbox) ∧
    (scan.run server.answer halfway).2.folders = (scan.run server.answer site).2.folders ∧
    ∀ c, counted [(scan.trace flaky.answer site, (scan.run flaky.answer site).1)] c
        + (scan.run server.answer halfway).1.result.count c
      = (scan.run server.answer site).1.result.count c :=
  ⟨by decide +kernel,
    @crash_recovery engine server.regime entry (fun _ => .interested) site halfway _ _ _ _ _ _ _
      trivial id steady (by decide) (by decide) (by decide) (by decide)
      (.scan .none (Dialogue.ends_run flaky.lawful scan site))
      (Dialogue.ends_run server.lawful scan halfway) (by decide +kernel)
      (Dialogue.ends_run server.lawful scan site) (by decide +kernel)⟩

end Mailroom.Scan
