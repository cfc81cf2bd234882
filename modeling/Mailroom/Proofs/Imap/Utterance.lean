import Mailroom.Proofs.Imap.Selection
import Mailroom.Proofs.Imap.Vocabulary
/-!
  Mailroom.Proofs.Imap.Utterance
  ────────────────────────────────
  **THE WORDS OF A CALL ON ITS CONNECTION.**

  A call is given a folder, a flag or a message, and what it sends is made of these and
  of nothing else.  `c.Says` lists the commands that a call can send, with their
  arguments.  It is read off the programs once, and then says about every run:

      asks_call   — each call only sends what it says
      Call.said   — at each moment of a run, whatever was answered before
      Turns.said  — in any calls on one session, whether they fail or not

  A flag is checked in front of everything else: a call that is given a refused one ends
  there (`Call.program_refused`).
-/
namespace Mailroom.Imap

open Mailroom.Mail

/-! ## §1. What calls are given. -/

/-- The flag that a call counts, sets or takes away. -/
def Call.flag? : Call → Option String
  | .countFlag _ flag | .setFlag _ _ flag | .removeFlag _ _ flag => some flag
  | .fetchPage _ _ _ | .fetchUnclassified _ _ | .append _ _ _ | .listFolders | .findSentFolder
  | .resolve _ | .close => none

/-- The folder that a call names to the server. -/
def Call.folder? : Call → Option String
  | .append folder _ _ => some folder
  | c => c.target?.map Prod.fst

/-- What a call searches its folder for. -/
def Call.criterion? : Call → Option Criterion
  | .fetchPage _ _ _ => some .all
  | .fetchUnclassified _ _ => some (.unkeyword classifiedFlag)
  | .countFlag _ flag => some (criterionOf flag)
  | .setFlag _ _ _ | .removeFlag _ _ _ | .append _ _ _ | .listFolders | .findSentFolder
  | .resolve _ | .close => none

/-! ## §2. What calls send. -/

/-- The commands that a call can send. -/
inductive Call.Says : Call → Mailroom.Command → Prop
  | select {c : Call} {folder : String} {readonly : Bool} (h : c.target? = some (folder, readonly)) :
      Call.Says c (.imap (.select (quotedName folder) readonly))
  | search {c : Call} {criterion : Criterion} (h : c.criterion? = some criterion) :
      Call.Says c (.imap (.search criterion))
  | fetch {c : Call} {criterion : Criterion} (h : c.criterion? = some criterion)
      (uids : List Int) : Call.Says c (.imap (.fetch uids))
  | set (folder : String) (uid : Int) (flag : String) :
      Call.Says (.setFlag folder uid flag) (.imap (.store uid .add flag))
  | remove (folder : String) (uid : Int) (flag : String) :
      Call.Says (.removeFlag folder uid flag) (.imap (.store uid .remove flag))
  | append (folder : String) (raw : Octets) (flags : String) :
      Call.Says (.append folder raw flags) (.imap (.append (quotedName folder) flags raw))
  | list : Call.Says .listFolders (.imap .list)
  | listForSent : Call.Says .findSentFolder (.imap .list)
  | listForAlias (name : String) : Call.Says (.resolve name) (.imap .list)
  | close : Call.Says .close (.imap .logout)

namespace Asks

theorem close {K : Mailroom.Command → Prop} (h : K (.imap .logout)) : Asks K close :=
  ⟨fun _ => ⟨h, fun r => by cases r with
    | error fault => cases fault <;> trivial
    | ok _ => trivial⟩⟩

end Asks

/-- **Each call only sends what it says.** -/
theorem asks_call (c : Call) : Asks c.Says c.program := by
  cases c with
  | fetchPage folder limit page =>
    exact (Asks.fetchPage_of (.select rfl) (.search rfl) (.fetch rfl)).bind fun _ => .pure ()
  | fetchUnclassified folder limit =>
    exact (Asks.fetchUnclassified_of (.select rfl) (.search rfl) (.fetch rfl)).bind fun _ => .pure ()
  | countFlag folder flag =>
    exact (Asks.countFlag_of (.select rfl) (.search rfl)).bind fun _ => .pure ()
  | setFlag folder uid flag => exact Asks.store_of (.select rfl) (.set folder uid flag)
  | removeFlag folder uid flag => exact Asks.store_of (.select rfl) (.remove folder uid flag)
  | append folder raw flags => exact Asks.append_of (.append folder raw flags)
  | listFolders => exact (Asks.listFolders_of .list).bind fun _ => .pure ()
  | findSentFolder => exact (Asks.findSentFolder_of .listForSent).bind fun _ => .pure ()
  | resolve name => exact (Asks.resolve_of (.listForAlias name)).bind fun _ => .pure ()
  | close => exact Asks.close .close

/-! ## §3. The check of a flag. -/

section

variable {flag folder : String} {uid : Int} {change : Change}

theorem checkFlag_accepted (h : isFlag flag = true) : checkFlag flag = pure () := if_pos h

theorem checkFlag_refused (h : isFlag flag = false) : checkFlag flag = throw (.flag flag) := by
  rw [checkFlag, h]
  rfl

theorem countFlag_refused (h : isFlag flag = false) :
    countFlag folder flag = throw (.flag flag) := by
  rw [countFlag, checkFlag_refused h]
  rfl

theorem store_refused (h : isFlag flag = false) :
    store folder uid change flag = throw (.flag flag) := by
  rw [store, checkFlag_refused h]
  rfl

/-- **A refused flag ends its call** before anything is asked, and the session stays as it
was. -/
theorem Call.program_refused {c : Call} (hc : c.flag? = some flag) (h : isFlag flag = false)
    (ss : Session) : c.program.run.run ss = .pure (.error (.flag flag), ss) := by
  cases c with
  | countFlag folder f =>
    obtain rfl : f = flag := Option.some.inj hc
    rw [Call.program, countFlag_refused h]
    rfl
  | setFlag folder uid f | removeFlag folder uid f =>
    obtain rfl : f = flag := Option.some.inj hc
    exact congrArg (fun prog => prog.run.run ss) (store_refused h)
  | _ => cases hc

end

/-! ## §4. Any calls on one session. -/

section

variable {σ : Type} {law : Law σ}

/-- At each moment of a run, a call has only sent what it says. -/
theorem Call.said {c : Call} {ss : Session} {s t : σ} {tr : List Event}
    {d : Dialogue (Except Failure Unit × Session)}
    (run : Dialogue.Reaches law (c.program.run.run ss) s tr d t) : ∀ ev ∈ tr, c.Says ev.1 :=
  (((asks_call c).poses ss).reaches run).1

/-- Calls on one session, one after the other, whether they fail or not, and the events of
each. -/
inductive Turns {σ : Type} (law : Law σ) :
    List (Call × List Event) → Session → σ → Session → σ → Prop
  | nil (ss : Session) (s : σ) : Turns law [] ss s ss s
  | cons {c : Call} {tr : List Event} {x : Except Failure Unit} {ss ss' ss'' : Session}
      {s s' s'' : σ} {turns : List (Call × List Event)}
      (run : Dialogue.Ends law (c.program.run.run ss) s tr (x, ss') s')
      (rest : Turns law turns ss' s' ss'' s'') : Turns law ((c, tr) :: turns) ss s ss'' s''

/-- **Each call of a sequence only sent what it says.** -/
theorem Turns.said {turns : List (Call × List Event)} {ss ss' : Session} {s s' : σ}
    (h : Turns law turns ss s ss' s') : ∀ turn ∈ turns, ∀ ev ∈ turn.2, turn.1.Says ev.1 := by
  induction h with
  | nil ss s => exact nofun
  | cons run rest ih => exact List.forall_mem_cons.2 ⟨Call.said run, ih⟩

end

end Mailroom.Imap
