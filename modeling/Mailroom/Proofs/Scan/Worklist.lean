import Mailroom.Proofs.Scan.Pairing
/-!
  Mailroom.Proofs.Scan.Worklist
  ────────────────────────────────
  **WHAT AN HONEST SERVER MAKES A SCAN DO.**

  From the folders alone one can say which messages a scan is to classify, in which
  order, and what it is to write for each.  Where the server is honest and UIDs are
  unique, the course of a scan keeps to it:

      due        — the newest unclassified messages of the inbox
      partner?   — the first of the newest sent messages that a message answers
      worklist   — the due messages, those with a partner first
      outcome    — the writes for a message of some category

      Course.kept — the judged tasks are a start of the worklist
-/
namespace Mailroom.Scan

open Mailroom.Imap Mailroom.Mail Mailroom.Reply Mailroom.Thread

/-! ## §1. From the folders alone. -/

/-- Whether a message answers another, going by what they say. -/
def repliesTo (previewLength : Int) (k l : Kept) : Bool :=
  match shown? previewLength k, shown? previewLength l with
  | some m, some n => answers m n
  | _, _ => false

namespace Engine

variable (e : Engine) (sent : String) (fs : Folders)

/-- The messages that a scan is to classify. -/
def due : List Kept :=
  newest e.inboxLimit ((fs inbox).filter fun k => classifiedFlag ∉ k.flags)

/-- The sent messages that a scan considers. -/
def recent : List Kept := newest (max 1 e.sentLimit) (fs sent)

/-- The sent message that a message of the inbox answers. -/
def partner? (k : Kept) : Option Kept :=
  (e.recent sent fs).find? (repliesTo e.transport.previewLength k)

/-- The messages to be classified in their order. -/
def worklist : List Kept :=
  (e.due fs).filter (fun k => (e.partner? sent fs k).isSome)
    ++ (e.due fs).filter fun k => (e.partner? sent fs k).isNone

/-- The question about a message, if it can be read. -/
def question? (k : Kept) : Option Question :=
  (shown? e.transport.previewLength k).map fun m => e.classifier.question m.subject m.preview

/-- The writes for a message that falls into a category. -/
def outcome (k : Kept) (c : Category) : List Write :=
  writesOf c ⟨inbox, k.uid⟩ ((e.partner? sent fs k).map fun l => ⟨sent, l.uid⟩)

/-- The writes for some messages with their categories. -/
def outcomes (ks : List (Kept × Category)) : List Write :=
  ks.flatMap fun y => e.outcome sent fs y.1 y.2

variable {e sent fs}

/-- An outcome concerns the message itself and its partner. -/
theorem mem_outcome {k : Kept} {c : Category} {w : Write} :
    w ∈ e.outcome sent fs k c ↔ w.flag ∈ tags c ∧ (w.folder = inbox ∧ w.uid = k.uid ∨
      w.folder = sent ∧ ∃ l, e.partner? sent fs k = some l ∧ w.uid = l.uid) := by
  rw [outcome, mem_writesOf, Place.mk.injEq, Option.mem_map]
  refine and_congr_right fun _ => or_congr_right ?_
  constructor
  · intro h
    obtain ⟨l, hl, hp⟩ := h
    obtain ⟨hf, hu⟩ := Place.mk.inj hp
    exact ⟨hf.symm, l, hl, hu.symm⟩
  · intro h
    obtain ⟨hf, l, hl, hu⟩ := h
    exact ⟨l, hl, by rw [hf, hu]⟩

theorem mem_outcomes {ks : List (Kept × Category)} {w : Write} :
    w ∈ e.outcomes sent fs ks ↔ ∃ y ∈ ks, w ∈ e.outcome sent fs y.1 y.2 := List.mem_flatMap

theorem worklist_perm : (e.worklist sent fs).Perm (e.due fs) := by
  unfold worklist
  have h := List.filter_append_perm (fun k => (e.partner? sent fs k).isSome) (e.due fs)
  simpa [Option.not_isSome] using h

theorem mem_worklist {k : Kept} : k ∈ e.worklist sent fs ↔ k ∈ e.due fs := worklist_perm.mem_iff

theorem mem_due {k : Kept} (h : k ∈ e.due fs) : k ∈ fs inbox ∧ classifiedFlag ∉ k.flags := by
  simpa using List.mem_filter.1 (mem_of_mem_newest h)

theorem mem_of_partner? {k l : Kept} (h : e.partner? sent fs k = some l) : l ∈ fs sent :=
  mem_of_mem_newest (List.mem_of_find?_eq_some h)

theorem due_nodup (h : ((fs inbox).map (·.uid)).Nodup) : ((e.due fs).map (·.uid)).Nodup := by
  unfold due newest
  refine List.Nodup.sublist ((List.take_sublist _ _).map _) ?_
  refine ((List.mergeSort_perm _ _).map _).nodup_iff.2 ?_
  exact h.sublist (List.filter_sublist.map _)

theorem worklist_nodup (h : ((fs inbox).map (·.uid)).Nodup) :
    ((e.worklist sent fs).map (·.uid)).Nodup :=
  (worklist_perm.map _).nodup_iff.2 (due_nodup h)

end Engine

/-! ## §2. Lists side by side. -/

theorem map_find?_of_forall₂ {α β γ : Type} {R : α → β → Prop} {f : α → Bool} {g : β → Bool}
    {u : α → γ} {v : β → γ} {as : List α} {bs : List β} (h : List.Forall₂ R as bs)
    (hfg : ∀ a b, R a b → f a = g b) (huv : ∀ a b, R a b → u a = v b) :
    (as.find? f).map u = (bs.find? g).map v := by
  induction h with
  | nil => rfl
  | cons hab _ ih =>
    rw [List.find?_cons, List.find?_cons, hfg _ _ hab]
    split
    · exact congrArg some (huv _ _ hab)
    · exact ih

theorem forall₂_of_prefix {α β : Type} {R : α → β → Prop} {as : List α} {bs cs : List β}
    (h : List.Forall₂ R as bs) (hcs : cs <+: bs) : ∃ ds, ds <+: as ∧ List.Forall₂ R ds cs := by
  obtain ⟨rest, rfl⟩ := hcs
  exact ⟨as.take cs.length, List.take_prefix _ _, List.forall₂_take_append _ _ _ h⟩

/-- What is beside the first halves of some pairs, with the second halves. -/
theorem exists_pairs_of_forall₂ {α β γ : Type} {R : α → β → Prop} {as : List α}
    {xs : List (β × γ)} (h : List.Forall₂ R as (xs.map Prod.fst)) :
    ∃ ys : List (α × γ), ys.map Prod.fst = as ∧
      List.Forall₂ (fun y x => R y.1 x.1 ∧ y.2 = x.2) ys xs := by
  induction xs generalizing as with
  | nil =>
    cases h
    exact ⟨[], rfl, .nil⟩
  | cons x xs ih =>
    cases h with
    | cons hab hs =>
      obtain ⟨ys, rfl, hys⟩ := ih hs
      exact ⟨(_, x.2) :: ys, rfl, .cons ⟨hab, rfl⟩ hys⟩

/-- Pairs with different first halves come from a function. -/
theorem exists_function {α β : Type} [DecidableEq α] (b : β) {ys : List (α × β)}
    (h : (ys.map Prod.fst).Nodup) : ∃ f : α → β, ∀ y ∈ ys, f y.1 = y.2 := by
  induction ys with
  | nil => exact ⟨fun _ => b, by simp⟩
  | cons y ys ih =>
    obtain ⟨hy, hys⟩ := List.nodup_cons.1 h
    obtain ⟨f, hf⟩ := ih hys
    refine ⟨Function.update f y.1 y.2, fun x hx => ?_⟩
    rcases List.mem_cons.1 hx with rfl | hx
    · exact Function.update_self _ _ _
    · have hne : x.1 ≠ y.1 := fun heq => hy (heq ▸ List.mem_map_of_mem hx)
      rw [Function.update_of_ne hne]
      exact hf x hx

/-! ## §3. The tasks of a scan and the messages behind them. -/

theorem repliesTo_eq {p : Int} {k l : Kept} {m n : Message} (hk : Snapshot p k m)
    (hl : Snapshot p l n) : repliesTo p k l = answers m n := by
  unfold repliesTo
  rw [hk.shown?_eq, hl.shown?_eq]
  exact answers_flags m n [] []

/-- A task that a message becomes. -/
structure Becomes (e : Engine) (sent : String) (fs : Folders) (k : Kept) (t : Task) : Prop where
  uid : t.reply.uid = k.uid
  question : e.question? k = some (t.question e.classifier)
  writes : ∀ c, t.writes sent c = e.outcome sent fs k c

variable {e : Engine} {g : Regime} {s₀ : Site}

/-- The replies seen are the due messages: those found lack the marker, so none is
dropped afterwards. -/
theorem Recent.replies {page : List Message}
    (h : Recent e.transport.previewLength g.honest e.inboxLimit (.unkeyword classifiedFlag)
      (s₀.folders inbox) page) (hhonest : g.honest)
    (hin : ((s₀.folders inbox).map (·.uid)).Nodup) :
    List.Forall₂ (Snapshot e.transport.previewLength) (e.due s₀.folders)
      (selected unclassified page) := by
  have hdue : List.Forall₂ (Snapshot e.transport.previewLength) (e.due s₀.folders) page :=
    h.whole hhonest hin
  have hall : selected unclassified page = page := by
    refine List.filter_eq_self.2 fun m hm => ?_
    obtain ⟨k, hk, hs⟩ := exists_of_forall₂ hdue hm
    have hlacks : classifiedFlag ∉ m.flags := fun hc => (Engine.mem_due hk).2 (hs.mem_flags.1 hc)
    simpa [unclassified, Filter.Expr.holds] using hlacks
  rwa [hall]

namespace Seen

variable {pages : List (List Message)}

/-- A message answers its partner. -/
theorem partner (h : Seen e g s₀ pages) (hhonest : g.honest)
    (hout : ((s₀.folders g.sent).map (·.uid)).Nodup) {k : Kept} {m : Message}
    (hs : Snapshot e.transport.previewLength k m) :
    (e.partner? g.sent s₀.folders k).map (·.uid)
      = (answered? (pages.getD 1 []) m).map (·.uid) := by
  have hsent : List.Forall₂ (Snapshot e.transport.previewLength) (e.recent g.sent s₀.folders)
      (pages.getD 1 []) := by
    have hall : (s₀.folders g.sent).filter (·.meets .all) = s₀.folders g.sent :=
      List.filter_eq_self.2 fun _ _ => rfl
    have hwhole := h.outbound.whole hhonest hout
    rwa [hall] at hwhole
  exact map_find?_of_forall₂ hsent (fun _ _ hl => repliesTo_eq hs hl) fun _ _ hl => hl.uid_eq.symm

theorem isSome_partner (h : Seen e g s₀ pages) (hhonest : g.honest)
    (hout : ((s₀.folders g.sent).map (·.uid)).Nodup) {k : Kept} {m : Message}
    (hs : Snapshot e.transport.previewLength k m) :
    (e.partner? g.sent s₀.folders k).isSome = (answered? (pages.getD 1 []) m).isSome := by
  have hmap := congrArg Option.isSome (h.partner hhonest hout hs)
  rwa [Option.isSome_map, Option.isSome_map] at hmap

theorem becomes (h : Seen e g s₀ pages) (hhonest : g.honest)
    (hout : ((s₀.folders g.sent).map (·.uid)).Nodup) {k : Kept} {m : Message}
    (hs : Snapshot e.transport.previewLength k m) :
    Becomes e g.sent s₀.folders k (taskFor (pages.getD 1 []) m) := by
  refine ⟨hs.uid_eq, ?_, fun c => ?_⟩
  · rw [Engine.question?, hs.shown?_eq]
    rfl
  · have hplaces := congrArg (Option.map (Place.mk g.sent)) (h.partner hhonest hout hs)
    rw [Option.map_map, Option.map_map] at hplaces
    show writesOf c ⟨inbox, m.uid⟩ (((answered? _ m).map (·.uid)).map (Place.mk g.sent)) = _
    rw [Option.map_map, hs.uid_eq, ← hplaces]
    rfl

/-- **The tasks seen are those of the worklist**, one by one. -/
theorem tasks (h : Seen e g s₀ pages) (hhonest : g.honest)
    (hin : ((s₀.folders inbox).map (·.uid)).Nodup)
    (hout : ((s₀.folders g.sent).map (·.uid)).Nodup) :
    List.Forall₂ (Becomes e g.sent s₀.folders) (e.worklist g.sent s₀.folders) (tasksIn pages) := by
  have hreplies := h.inbound.replies hhonest hin
  rw [tasksIn, matchingIn, tasksOf_matching h.replies.nodup]
  -- Both halves filter the same replies, and messages and snapshots agree on the test.
  refine List.rel_append ?_ ?_
  · rw [List.forall₂_map_right_iff]
    refine (List.rel_filter (fun k m hs => ?_) hreplies).imp
      fun k m hs => h.becomes hhonest hout hs
    show _ = true ↔ _ = true
    rw [h.isSome_partner hhonest hout hs]
  · rw [List.forall₂_map_right_iff]
    refine (List.rel_filter (fun k m hs => ?_) hreplies).imp
      fun k m hs => h.becomes hhonest hout hs
    show Option.isNone _ = true ↔ Option.isNone _ = true
    rw [← Option.not_isSome, h.isSome_partner hhonest hout hs, Option.not_isSome]

/-- How many of the due messages have a partner, and how many have none. -/
theorem numbers (h : Seen e g s₀ pages) (hhonest : g.honest)
    (hin : ((s₀.folders inbox).map (·.uid)).Nodup)
    (hout : ((s₀.folders g.sent).map (·.uid)).Nodup) :
    (matchingIn pages).found.length
        = (e.due s₀.folders).countP (fun k => (e.partner? g.sent s₀.folders k).isSome) ∧
      (matchingIn pages).unmatched.length
        = (e.due s₀.folders).countP fun k => (e.partner? g.sent s₀.folders k).isNone := by
  have hreplies := h.inbound.replies hhonest hin
  -- A property of messages that their snapshots share is counted alike.
  have hcount : ∀ f : Message → Bool, ∀ f' : Kept → Bool,
      (∀ k m, Snapshot e.transport.previewLength k m → f' k = f m) →
        (repliesIn pages).countP f = (e.due s₀.folders).countP f' := by
    intro f f' hff
    rw [List.countP_eq_length_filter, List.countP_eq_length_filter]
    refine (List.rel_filter (fun k m hs => ?_) hreplies).length_eq.symm
    show _ = true ↔ _ = true
    rw [hff k m hs]
  refine ⟨?_, ?_⟩
  · rw [← hcount (fun m => (answered? (pages.getD 1 []) m).isSome) _
      fun k m hs => h.isSome_partner hhonest hout hs]
    rw [matchingIn, matching, List.length_filterMap_eq_countP]
    simp
  · rw [← hcount (fun m => (answered? (pages.getD 1 []) m).isNone) _ fun k m hs => by
      rw [← Option.not_isSome, h.isSome_partner hhonest hout hs, Option.not_isSome]]
    rw [matchingIn, matching, List.length_map, List.countP_eq_length_filter]

end Seen

/-- A message with its category stands for a judged task. -/
structure Stands (e : Engine) (sent : String) (fs : Folders) (y : Kept × Category)
    (x : Task × Category) : Prop extends Becomes e sent fs y.1 x.1 where
  category : y.2 = x.2

section Stands

variable {sent : String} {fs : Folders} {ks : List (Kept × Category)}
  {judged : List (Task × Category)}

theorem plan_eq_of_stands (h : List.Forall₂ (Stands e sent fs) ks judged) :
    plan sent judged = e.outcomes sent fs ks := by
  induction h with
  | nil => rfl
  | @cons y x ks judged hyx _ ih =>
    show x.1.writes sent x.2 ++ plan sent judged
      = e.outcome sent fs y.1 y.2 ++ e.outcomes sent fs ks
    rw [ih, hyx.writes, hyx.category]

theorem categories_eq_of_stands (h : List.Forall₂ (Stands e sent fs) ks judged) :
    judged.map Prod.snd = ks.map Prod.snd := by
  induction h with
  | nil => rfl
  | cons hyx _ ih => rw [List.map_cons, List.map_cons, ih, hyx.category]

theorem questions_eq_of_stands (h : List.Forall₂ (Stands e sent fs) ks judged) :
    judged.map (fun x => (some (x.1.question e.classifier), x.2))
      = ks.map fun y => (e.question? y.1, y.2) := by
  induction h with
  | nil => rfl
  | cons hyx _ ih => rw [List.map_cons, List.map_cons, ih, hyx.question, hyx.category]

end Stands

/-- **The judged tasks are a start of the worklist.** -/
theorem Course.kept {judged : List (Task × Category)} {written confirmed : List Write}
    {μ : Moment} (h : Course e g s₀ judged written confirmed μ) (hhonest : g.honest)
    (hin : ((s₀.folders inbox).map (·.uid)).Nodup)
    (hout : ((s₀.folders g.sent).map (·.uid)).Nodup) :
    ∃ ks : List (Kept × Category), ks.map Prod.fst <+: e.worklist g.sent s₀.folders ∧
      List.Forall₂ (Stands e g.sent s₀.folders) ks judged := by
  by_cases hne : judged = []
  · subst hne
    exact ⟨[], List.nil_prefix, .nil⟩
  · have htasks := (h.seen hne).tasks hhonest hin hout
    obtain ⟨ws, hws, hbecome⟩ := forall₂_of_prefix htasks h.tasks
    obtain ⟨ks, rfl, hks⟩ := exists_pairs_of_forall₂ hbecome
    exact ⟨ks, hws, hks.imp fun y x hyx => ⟨hyx.1, hyx.2⟩⟩

end Mailroom.Scan
