import Mailroom.Proofs.Imap.Mailserver
import Mailroom.Scan.Engine
/-!
  Mailroom.Proofs.Scan.Moment
  ────────────────────────────────
  **WHAT MATTERS AT A MOMENT OF A SCAN.**

  From the events of a run we read off the messages that it was shown, one page for
  each FETCH, and the judgements that it heard from the classifier.  Together with
  the messages and the confirmed flags of the server they make up a `Moment`.  Only
  three kinds of questions change it, the others are `Silent`:

      FETCH     — adds a page
      STORE     — changes messages and confirmed flags
      classify  — adds a judgement
-/
namespace Mailroom.Scan

open Mailroom.Imap Mailroom.Mail Mailroom.Reply

/-! ## §1. What a run was told. -/

/-- The messages read from an answer to FETCH, newest first. -/
def messagesOf (previewLength : Int) (r : Except Fault Response) : Option (List Message) := do
  let found ← (readFetch (← accepted? r)).toOption
  let messages ← (found.mapM fun m =>
    Message.ofOctets m.uid m.raw m.flags previewLength).toOption
  return newestFirst messages

/-- The category that an answer of the classifier states. -/
def categoryIn : Except String (List Block) → Option Category
  | .ok blocks => (Category.ofBlocks blocks).toOption
  | .error _ => none

/-- The page of messages that an event shows. -/
def pageIn (previewLength : Int) : Event → Option (List Message)
  | ⟨.imap (.fetch _), r⟩ => messagesOf previewLength r
  | _ => none

/-- The judgement that an event brings. -/
def judgementIn : Event → Option (Question × Category)
  | ⟨.classify q, r⟩ => (categoryIn r).map (q, ·)
  | _ => none

/-- The pages shown in a run. -/
def pages (previewLength : Int) (tr : List Event) : List (List Message) :=
  tr.filterMap (pageIn previewLength)

/-- The judgements heard in a run: each question with the category stated. -/
def judgements (tr : List Event) : List (Question × Category) := tr.filterMap judgementIn

/-! ## §2. Moments. -/

/-- The messages and confirmed flags of a server, and what a run was told so far. -/
structure Moment where
  folders : Folders
  journal : List Write
  pages : List (List Message)
  judgements : List (Question × Category)

/-- The moment after some events, with the server in a state. -/
def moment (previewLength : Int) (tr : List Event) (s : Site) : Moment where
  folders := s.folders
  journal := s.journal
  pages := pages previewLength tr
  judgements := judgements tr

/-- A question that leaves the moment as it is. -/
def Silent : Mailroom.Command → Prop
  | .imap (.fetch _) | .imap (.store _ _ _) | .imap (.append _ _ _) | .classify _ => False
  | _ => True

theorem moment_concat (p : Int) (tr : List Event) (ev : Event) (s : Site) :
    moment p (tr ++ [ev]) s = { moment p tr s with
      pages := pages p tr ++ (pageIn p ev).toList
      judgements := judgements tr ++ (judgementIn ev).toList } := by
  unfold moment pages judgements
  rw [List.filterMap_append, List.filterMap_append]
  cases hp : pageIn p ev <;> cases hj : judgementIn ev <;> simp [hp, hj]

theorem moment_silent {g : Regime} {p : Int} {tr : List Event} {s s' : Site}
    {c : Mailroom.Command} {r : c.Answer} (hc : Silent c) (h : g.law s c r s') :
    moment p (tr ++ [⟨c, r⟩]) s' = moment p tr s := by
  rw [moment_concat]
  -- By the law of each silent question the server is the same but for the connection.
  match c, r, hc, h with
  | .get _, _, _, h | .scanId, _, _, h | .clock, _, _, h | .stamp, _, _, h | .draw, _, _, h
  | .sleep _, _, _, h | .smtp _, _, _, h => cases h; simp [moment, pageIn, judgementIn]
  | .connect _, _, _, h => cases h; simp [moment, pageIn, judgementIn]
  | .imap (.select _ _), _, _, h | .imap .startTls, _, _, h | .imap (.login _ _), _, _, h
  | .imap .logout, _, _, h => cases h.2; simp [moment, pageIn, judgementIn]
  | .imap (.search _), _, _, h | .imap .list, _, _, h =>
    cases h.2.1; simp [moment, pageIn, judgementIn]

end Mailroom.Scan
