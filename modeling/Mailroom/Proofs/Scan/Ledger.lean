import Mathlib.Data.List.ModifyLast
import Mailroom.Proofs.Scan.Conduct
import Mailroom.Proofs.Scan.Pairing
/-!
  Mailroom.Proofs.Scan.Ledger
  ────────────────────────────────
  **WHICH REPLIES THE EVENTS OF A SCAN SHOW TO BE DONE.**

  The ledger of a run is read off its events alone: each judgement opens a `Turn`, and
  each STORE is put down in the turn that is open, with the folder in which it was sent.
  A turn settles the task at its place if its judgement is on the reply of the task and
  the STORE that came last in it is the marker of that reply, in the inbox, answered
  `OK`.  Nothing that the program counts goes into it.

      turns        — one for each judgement heard
      settledTasks — the tasks settled, each with the category that its judgement states
-/
namespace Mailroom.Scan

open Mailroom.Imap Mailroom.Mail Mailroom.Reply Mailroom.Thread

/-! ## §1. The ledger. -/

/-- A STORE: the folder that was selected, what it was to change, and whether it was
accepted. -/
structure Storing where
  selected : Option (String × Bool)
  uid : Int
  change : Change
  flag : String
  accepted : Bool
  deriving DecidableEq

/-- A judgement, and the STORE that came last before the next one. -/
structure Turn where
  question : Question
  category : Category
  last : Option Storing := none
  deriving DecidableEq

/-- The turn after one more STORE. -/
def Turn.stored (t : Turn) (st : Storing) : Turn := { t with last := some st }

/-- The folder selected and the turns so far. -/
structure Ledger where
  selected : Option (String × Bool) := none
  turns : List Turn := []

/-- The ledger after one more event. -/
def Ledger.enter (l : Ledger) (ev : Event) : Ledger where
  selected := selectionAfter l.selected ev
  turns := match ev with
    | ⟨.imap (.store uid change flag), r⟩ => l.turns.modifyLast fun t =>
        t.stored ⟨l.selected, uid, change, flag, (accepted? r).isSome⟩
    | ev => l.turns ++ (judgementIn ev).toList.map fun x => { question := x.1, category := x.2 }

/-- The ledger of some events. -/
def ledger (tr : List Event) : Ledger := tr.foldl Ledger.enter {}

/-- The turns of some events. -/
def turns (tr : List Event) : List Turn := (ledger tr).turns

theorem ledger_concat (tr : List Event) (ev : Event) :
    ledger (tr ++ [ev]) = (ledger tr).enter ev := by
  simp [ledger, List.foldl_append]

theorem ledger_selected (tr : List Event) : (ledger tr).selected = selection tr := by
  induction tr using List.reverseRecOn with
  | nil => rfl
  | append_singleton tr ev ih => rw [ledger_concat, selection_concat, ← ih]; rfl

/-- A STORE goes into the turn that is open. -/
theorem turns_store {tr : List Event} {ts : List Turn} {t : Turn} (h : turns tr = ts ++ [t])
    (uid : Int) (change : Change) (flag : String) (r : Except Imap.Fault Response) :
    turns (tr ++ [⟨.imap (.store uid change flag), r⟩])
      = ts ++ [t.stored ⟨selection tr, uid, change, flag, (accepted? r).isSome⟩] := by
  unfold turns at h ⊢
  rw [ledger_concat, ← ledger_selected]
  simp only [Ledger.enter, h, List.modifyLast_concat]

/-- A judgement opens a turn. -/
theorem turns_classify (tr : List Event) (q : Question) (r : Except String (List Block)) :
    turns (tr ++ [⟨.classify q, r⟩])
      = turns tr ++ (categoryIn r).toList.map fun c => { question := q, category := c } := by
  unfold turns
  rw [ledger_concat]
  cases h : categoryIn r <;> simp [Ledger.enter, judgementIn, h]

/-- What is neither a judgement nor a STORE. -/
def Uncounted : Mailroom.Command → Prop
  | .classify _ | .imap (.store _ _ _) => False
  | _ => True

theorem turns_uncounted {tr : List Event} {c : Mailroom.Command} (hc : Uncounted c)
    (r : c.Answer) : turns (tr ++ [⟨c, r⟩]) = turns tr := by
  unfold turns
  rw [ledger_concat]
  match c, hc with
  | .get _, _ | .scanId, _ | .clock, _ | .stamp, _ | .draw, _ | .sleep _, _ | .connect _, _
  | .smtp _, _ | .imap .startTls, _ | .imap (.login _ _), _ | .imap .logout, _
  | .imap (.select _ _), _ | .imap .list, _ | .imap (.append _ _ _), _ | .imap (.search _), _
  | .imap (.fetch _), _ => simp [Ledger.enter, judgementIn]

/-! ## §2. What is settled. -/

/-- The STORE of a write that was accepted. -/
def confirmedStore (w : Write) : Storing where
  selected := some (w.folder, false)
  uid := w.uid
  change := .add
  flag := w.flag
  accepted := true

theorem confirmedStore_injective : Function.Injective confirmedStore := by
  intro v w h
  cases v
  cases w
  simpa [confirmedStore] using h

/-- A turn settles a task: its judgement is on the reply of the task, and the marker of
the reply was the last STORE and was accepted. -/
def Turn.Settles (classifier : Classifier) (turn : Turn) (t : Task) : Prop :=
  turn.question = t.question classifier ∧ turn.last = some (confirmedStore (marker t.reply.uid))

instance (classifier : Classifier) (turn : Turn) : DecidablePred (turn.Settles classifier) :=
  fun _ => inferInstanceAs (Decidable (_ ∧ _))

/-- The task at the place of a turn, with the category stated, if it is settled. -/
def settledBy (classifier : Classifier) (x : Task × Turn) : Option (Task × Category) :=
  if x.2.Settles classifier x.1 then some (x.1, x.2.category) else none

/-- **The tasks that were settled**, each with the category stated for it. -/
def settledTasks (e : Engine) (tr : List Event) : List (Task × Category) :=
  ((tasksIn (pages e.transport.previewLength tr)).zip (turns tr)).filterMap
    (settledBy e.classifier)

/-- The turn of a task that is done. -/
def doneTurn (classifier : Classifier) (x : Task × Category) : Turn where
  question := x.1.question classifier
  category := x.2
  last := some (confirmedStore (marker x.1.reply.uid))

section Settled

variable {e : Engine} {tr : List Event} {done : List (Task × Category)} {ts : List Task}

theorem settledBy_done (classifier : Classifier) (done : List (Task × Category)) :
    ((done.map Prod.fst).zip (done.map (doneTurn classifier))).filterMap (settledBy classifier)
      = done := by
  induction done with
  | nil => rfl
  | cons x done ih =>
    have hx : settledBy classifier (x.1, doneTurn classifier x) = some x := by
      simp [settledBy, Turn.Settles, doneTurn]
    simp only [List.map_cons, List.zip_cons_cons, List.filterMap_cons, hx, ih]

/-- Tasks that are done are settled, and so far no others. -/
theorem settledTasks_eq
    (htasks : tasksIn (pages e.transport.previewLength tr) = done.map Prod.fst ++ ts)
    (hturns : turns tr = done.map (doneTurn e.classifier)) : settledTasks e tr = done := by
  unfold settledTasks
  -- The tasks left have no turn yet, so that they are paired with nothing.
  rw [htasks, hturns, ← List.append_nil (done.map (doneTurn e.classifier)),
    List.zip_append (by simp), List.filterMap_append, settledBy_done]
  simp

/-- A task whose turn does not settle it adds nothing. -/
theorem settledTasks_eq_of_open {t : Task} {turn : Turn}
    (htasks : tasksIn (pages e.transport.previewLength tr) = done.map Prod.fst ++ t :: ts)
    (hturns : turns tr = done.map (doneTurn e.classifier) ++ [turn])
    (hopen : ¬ turn.Settles e.classifier t) : settledTasks e tr = done := by
  unfold settledTasks
  rw [htasks, hturns, List.zip_append (by simp), List.filterMap_append, settledBy_done]
  simp [settledBy, hopen]

theorem settledTasks_eq_nil (h : turns tr = []) : settledTasks e tr = [] := by
  simp [settledTasks, h]

/-- No more is settled than there are tasks. -/
theorem length_settledTasks_le (e : Engine) (tr : List Event) :
    (settledTasks e tr).length ≤ (tasksIn (pages e.transport.previewLength tr)).length := by
  refine (List.length_filterMap_le _ _).trans ?_
  rw [List.length_zip]
  exact min_le_left _ _

end Settled

/-! ## §3. One task for each reply. -/

theorem lastWith?_isSome {m : Message} {ms : List Message} (hm : m ∈ ms) :
    (lastWith? m.uid ms).isSome :=
  List.find?_isSome.2 ⟨m, List.mem_reverse.2 hm, beq_self_eq_true m.uid⟩

/-- A matching parts the replies. -/
theorem length_matching (replies outbound : List Message) :
    (matching replies outbound).found.length + (matching replies outbound).unmatched.length
      = replies.length := by
  unfold matching
  induction replies with
  | nil => rfl
  | cons m ms ih =>
    simp only [List.length_map] at ih ⊢
    cases h : answered? outbound m <;> simp [h] at ih ⊢ <;> omega

/-- Each pair and each unmatched reply becomes a task, also where UIDs repeat. -/
theorem length_tasksOf (replies outbound : List Message) :
    (tasksOf replies (matching replies outbound)).length
      = (matching replies outbound).found.length
        + (matching replies outbound).unmatched.length := by
  unfold tasksOf
  rw [List.length_append]
  congr 1
  -- Each UID is looked up among the replies it was taken from, and so is found.
  · refine List.filterMap_length_eq_length.2 fun x hx => ?_
    obtain ⟨m, hm, s, -, rfl⟩ := mem_found.1 hx
    simpa using lastWith?_isSome hm
  · refine List.filterMap_length_eq_length.2 fun uid hu => ?_
    obtain ⟨m, hm, rfl⟩ := List.mem_map.1 hu
    simpa using lastWith?_isSome (List.mem_of_mem_filter hm)

end Mailroom.Scan
