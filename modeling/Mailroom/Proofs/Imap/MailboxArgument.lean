import Mailroom.Proofs.Imap.FolderLine
import Mailroom.Proofs.Imap.Utterance
/-!
  Mailroom.Proofs.Imap.MailboxArgument
  ────────────────────────────────
  **HOW FOLDERS ARE NAMED TO A SERVER.**

  In a command a folder stands between quotes.  The protocol lets every text stand there
  that is on one line, with a backslash before each quote and each backslash, and the
  server reads the text back.  A text with a line break in it has no such form:

      isQuotedString_iff       — the form of a text, and which texts have one
      mailbox_argument         — what calls on a session put between the quotes
      line_break_in_mailbox    — a line break among it reaches the server

  So every folder is named in the one form that it has, if it has one.
-/
namespace Mailroom.Imap

open Mailroom.Simulation

/-! ## §1. Texts between quotes. -/

/-- What may stand between two quotes, and the text that it stands for. -/
inductive Between : List Char → List Char → Prop
  | nil : Between [] []
  | pair {c : Char} {cs text : List Char} (special : c = '"' ∨ c = '\\')
      (rest : Between cs text) : Between ('\\' :: c :: cs) (c :: text)
  | plain {c : Char} {cs text : List Char} (quote : c ≠ '"') (backslash : c ≠ '\\')
      (carriage : c ≠ '\r') (feed : c ≠ '\n') (rest : Between cs text) :
      Between (c :: cs) (c :: text)

/-- An argument of a command is a text between quotes. -/
def IsQuotedString (arg text : String) : Prop :=
  ∃ cs, arg.toList = '"' :: (cs ++ ['"']) ∧ Between cs text.toList

/-- A text without line breaks. -/
structure OnOneLine (text : String) : Prop where
  carriage : '\r' ∉ text.toList
  feed : '\n' ∉ text.toList

/-- **Between the quotes stands the escaped text**, by induction along the text. -/
theorem between_iff {cs text : List Char} :
    Between cs text ↔ cs = escaped text ∧ '\r' ∉ text ∧ '\n' ∉ text := by
  constructor
  · intro h
    induction h with
    | nil => exact ⟨rfl, List.not_mem_nil, List.not_mem_nil⟩
    | @pair c cs text special rest ih =>
      obtain ⟨rfl, hcarriage, hfeed⟩ := ih
      have hc : c ≠ '\r' ∧ c ≠ '\n' := by rcases special with rfl | rfl <;> decide
      rw [escaped_cons, escapedNameChar_special special]
      simp [hcarriage, hfeed, hc.1.symm, hc.2.symm]
    | plain quote backslash carriage feed rest ih =>
      obtain ⟨rfl, hcarriage, hfeed⟩ := ih
      rw [escaped_cons, escapedNameChar_plain quote backslash]
      simp [hcarriage, hfeed, carriage.symm, feed.symm]
  · rintro ⟨rfl, hcarriage, hfeed⟩
    induction text with
    | nil => exact .nil
    | cons c text ih =>
      rw [List.mem_cons, not_or] at hcarriage hfeed
      have hrest := ih hcarriage.2 hfeed.2
      rw [escaped_cons]
      by_cases hc : c = '"' ∨ c = '\\'
      · rw [escapedNameChar_special hc]
        exact .pair hc hrest
      · obtain ⟨hquote, hslash⟩ := not_or.1 hc
        rw [escapedNameChar_plain hquote hslash]
        exact .plain hquote hslash (Ne.symm hcarriage.1) (Ne.symm hfeed.1) hrest

theorem toList_quotedName (name : String) :
    (quotedName name).toList = '"' :: (escaped name.toList ++ ['"']) := String.toList_ofList

/-- **A text on one line has one form between quotes**, and no other text has any. -/
theorem isQuotedString_iff {arg text : String} :
    IsQuotedString arg text ↔ arg = quotedName text ∧ OnOneLine text := by
  constructor
  · rintro ⟨cs, harg, h⟩
    obtain ⟨rfl, hcarriage, hfeed⟩ := between_iff.1 h
    exact ⟨String.toList_inj.1 (harg.trans (toList_quotedName text).symm), hcarriage, hfeed⟩
  · rintro ⟨rfl, h⟩
    exact ⟨_, toList_quotedName text, between_iff.2 ⟨rfl, h.carriage, h.feed⟩⟩

/-- A server reads the text back. -/
theorem IsQuotedString.unquotedName {arg text : String} (h : IsQuotedString arg text) :
    World.unquotedName arg = text := by
  rw [(isQuotedString_iff.1 h).1, Scan.unquotedName_quotedName]

/-! ## §2. Folders in commands. -/

/-- The argument of a command that names a folder. -/
def mailbox? : Mailroom.Command → Option String
  | .imap (.select mailbox _) | .imap (.append mailbox _ _) => some mailbox
  | _ => none

/-- A call names the folder that it was given. -/
theorem Call.Says.mailbox {c : Call} {cmd : Mailroom.Command} {arg : String} (h : c.Says cmd)
    (harg : mailbox? cmd = some arg) : ∃ folder, c.folder? = some folder ∧ arg = quotedName folder := by
  cases h with
  | @select _ folder readonly h =>
    refine ⟨folder, ?_, (Option.some.inj harg).symm⟩
    cases c with
    | append _ _ _ => cases h
    | _ => exact congrArg (Option.map Prod.fst) h
  | append folder raw flags => exact ⟨folder, rfl, (Option.some.inj harg).symm⟩
  | _ => cases harg

section

variable {σ : Type} {law : Law σ} {turns : List (Call × List Event)} {ss ss' : Session} {s s' : σ}

/-- **Every folder is named in the one form that it has, if it has one.**  Whatever calls
are made on a connection in any state, the argument of each SELECT and APPEND is made of
the folder of its call; it is a text between quotes that stands for this folder exactly if
the folder is on one line, and otherwise nothing is. -/
theorem mailbox_argument (h : Turns law turns ss s ss' s') :
    ∀ turn ∈ turns, ∀ ev ∈ turn.2, ∀ arg ∈ mailbox? ev.1, ∃ folder ∈ turn.1.folder?,
      arg = quotedName folder ∧ (IsQuotedString arg folder ↔ OnOneLine folder) ∧
        ((∃ form, IsQuotedString form folder) ↔ OnOneLine folder) := by
  intro turn hturn ev hev arg harg
  obtain ⟨folder, hfolder, rfl⟩ := (h.said turn hturn ev hev).mailbox harg
  refine ⟨folder, hfolder, rfl, ?_, ?_⟩
  · rw [isQuotedString_iff, and_iff_right rfl]
  · simp only [isQuotedString_iff, exists_eq_left]

end

/-! ## §3. A folder with a line break. -/

namespace Sample

/-- The messages of a folder are counted whose name has quotes and a backslash in it. -/
def quoting : Call := .countFlag "\"a\\b\"" "interested"

/-- The messages of a folder are counted whose name is on two lines. -/
def broken : Call := .countFlag "a\r\nb" "interested"

/-- The folder is selected and searched. -/
def counting : Script where
  replies := [done "2", done "1 2"]

/-- The events of a call on a new connection. -/
def heard (c : Call) : List Event := (c.program.run.run fresh).trace Script.answer counting

/-- What the session knows after it, and the script. -/
def after (c : Call) : Session × Script :=
  let r := (c.program.run.run fresh).run Script.answer counting
  (r.1.2, r.2)

theorem turns_heard (c : Call) : Turns (Dialogue.lawOf Script.answer) [(c, heard c)] fresh counting
    (after c).1 (after c).2 :=
  .cons (Dialogue.ends_lawOf Script.answer (c.program.run.run fresh) counting) (.nil _ _)

end Sample

open Sample in
theorem mailbox_argument_sample : Turns (Dialogue.lawOf Script.answer) [(quoting, heard quoting)]
      fresh counting (after quoting).1 (after quoting).2 ∧
    ∀ ev ∈ heard quoting, ∀ arg ∈ mailbox? ev.1, ∃ folder ∈ quoting.folder?,
      arg = quotedName folder ∧ (IsQuotedString arg folder ↔ OnOneLine folder) ∧
        ((∃ form, IsQuotedString form folder) ↔ OnOneLine folder) := by
  have hturns := turns_heard quoting
  exact ⟨hturns, mailbox_argument hturns _ List.mem_cons_self⟩

open Sample in
/-- A folder with a line break in its name is not refused, and its line break is sent. -/
theorem line_break_in_mailbox :
    ¬ ∀ (c : Call) (ss : Session) (script : Script),
      ∀ ev ∈ (c.program.run.run ss).trace Script.answer script,
        ∀ arg ∈ mailbox? ev.1, ∃ folder, IsQuotedString arg folder := by
  intro h
  have hsent : (heard broken).any (fun ev => mailbox? ev.1 == some (quotedName "a\r\nb")) = true := by
    decide +kernel
  obtain ⟨ev, hev, harg⟩ := List.any_eq_true.1 hsent
  obtain ⟨folder, hfolder⟩ := h broken fresh counting ev hev _ (beq_iff_eq.1 harg)
  have hread : "a\r\nb" = folder := by
    rw [← hfolder.unquotedName, Scan.unquotedName_quotedName]
  have hline := (isQuotedString_iff.1 hfolder).2
  rw [← hread] at hline
  exact hline.feed (by decide)

end Mailroom.Imap
