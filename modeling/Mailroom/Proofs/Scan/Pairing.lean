import Mailroom.Proofs.Scan.Account
/-!
  Mailroom.Proofs.Scan.Pairing
  ────────────────────────────────
  **WHICH TASK A REPLY BECOMES.**

  When UIDs are unique, every reply becomes one task, with the first sent message
  that it answers: first the replies that answer one, then the others.
-/
namespace Mailroom.Scan

open Mailroom.Imap Mailroom.Mail Mailroom.Reply Mailroom.Thread

/-- The task that a reply becomes, beside the sent messages that it may answer. -/
def taskFor (outbound : List Message) (reply : Message) : Task where
  reply := reply
  answers := (answered? outbound reply).map (·.uid)

theorem lastWith?_of_mem {ms : List Message} (hnodup : (ms.map (·.uid)).Nodup) {m : Message}
    (hm : m ∈ ms) : lastWith? m.uid ms = some m := by
  unfold lastWith?
  cases h : ms.reverse.find? (·.uid == m.uid) with
  | none => exact absurd (beq_self_eq_true m.uid) (List.find?_eq_none.1 h m (List.mem_reverse.2 hm))
  | some n =>
    have hn : n ∈ ms := List.mem_reverse.1 (List.mem_of_find?_eq_some h)
    -- Whatever message of that UID is found is `m`, as UIDs are unique.
    have hu : n.uid = m.uid := by simpa using List.find?_some h
    exact congrArg some (List.inj_on_of_nodup_map hnodup hn hm hu)

/-- **Every reply becomes one task**: those that answer a sent message come first. -/
theorem tasksOf_matching {replies outbound : List Message}
    (hnodup : (replies.map (·.uid)).Nodup) :
    tasksOf replies (matching replies outbound)
      = (replies.filter fun m => (answered? outbound m).isSome).map (taskFor outbound)
        ++ (replies.filter fun m => (answered? outbound m).isNone).map (taskFor outbound) := by
  unfold tasksOf matching
  -- First the tasks of the pairs, then those of the unmatched replies.
  congr 1
  · rw [List.filterMap_filterMap, ← List.filterMap_eq_map, List.filterMap_filter]
    apply List.filterMap_congr
    intro m hm
    cases h : answered? outbound m with
    | none => simp
    | some s => simp [lastWith?_of_mem hnodup hm, taskFor, h]
  · rw [List.filterMap_map, ← List.filterMap_eq_map]
    apply List.filterMap_congr
    intro m hm
    have hnone : answered? outbound m = none := by simpa using (List.mem_filter.1 hm).2
    simp [lastWith?_of_mem hnodup (List.mem_of_mem_filter hm), taskFor, hnone]

theorem tasksOf_perm {replies : List Message} (outbound : List Message)
    (hnodup : (replies.map (·.uid)).Nodup) :
    (tasksOf replies (matching replies outbound)).Perm (replies.map (taskFor outbound)) := by
  rw [tasksOf_matching hnodup, ← List.map_append]
  refine List.Perm.map _ ?_
  have h := List.filter_append_perm (fun m => (answered? outbound m).isSome) replies
  simpa [Option.not_isSome] using h

/-- The pairs of a matching. -/
theorem mem_found {replies outbound : List Message} {x : Match} :
    x ∈ (matching replies outbound).found ↔
      ∃ m ∈ replies, ∃ s, answered? outbound m = some s ∧ x = ⟨m.uid, s.uid⟩ := by
  simp only [matching, List.mem_filterMap, Option.map_eq_some_iff]
  constructor
  · intro h
    obtain ⟨m, hm, s, hs, rfl⟩ := h
    exact ⟨m, hm, s, hs, rfl⟩
  · intro h
    obtain ⟨m, hm, s, hs, rfl⟩ := h
    exact ⟨m, hm, s, hs, rfl⟩

/-- The tasks of a scan, one for each reply. -/
theorem mem_tasksIn {pages : List (List Message)} (hnodup : ((repliesIn pages).map (·.uid)).Nodup)
    {t : Task} : t ∈ tasksIn pages ↔
      ∃ m ∈ repliesIn pages, t = taskFor (pages.getD 1 []) m := by
  rw [tasksIn, matchingIn, (tasksOf_perm _ hnodup).mem_iff, List.mem_map]
  constructor
  · intro h
    obtain ⟨m, hm, rfl⟩ := h
    exact ⟨m, hm, rfl⟩
  · intro h
    obtain ⟨m, hm, rfl⟩ := h
    exact ⟨m, hm, rfl⟩

/-! ## The replies of a course. -/

section Course

variable {e : Engine} {g : Regime} {s₀ : Site} {judged : List (Task × Category)}
  {written confirmed : List Write} {μ : Moment}

/-- The replies seen are a listing of the inbox. -/
theorem Seen.replies {pages : List (List Message)} (h : Seen e g s₀ pages) :
    Listing e.transport.previewLength (s₀.folders inbox) (repliesIn pages) :=
  h.inbound.toListing.filter _

/-- A judged task is the task of a reply. -/
theorem Course.exists_reply (h : Course e g s₀ judged written confirmed μ)
    {x : Task × Category} (hx : x ∈ judged) :
    Seen e g s₀ μ.pages ∧ ∃ m ∈ repliesIn μ.pages, x.1 = taskFor (μ.pages.getD 1 []) m := by
  have hseen := h.seen (List.ne_nil_of_mem hx)
  exact ⟨hseen, (mem_tasksIn hseen.replies.nodup).1 (h.tasks.mem (List.mem_map_of_mem hx))⟩

end Course

end Mailroom.Scan
