import Mailroom.Proofs.Imap.FlagList
import Mailroom.Proofs.Imap.Utterance
/-!
  Mailroom.Proofs.Imap.FlagArgument
  ────────────────────────────────
  **WHICH FLAGS REACH A SERVER.**

  A flag stands bare in a command, so it has to be one atom: a blank or a parenthesis in
  it would end it, and a line break would end the command.  The check in front of a call
  lets an atom through, and an atom with one line feed behind it:

      isFlag_iff        — what the check lets through
      isAtom_iff        — of that, what is one atom
      flag_argument     — a call is refused, or it sends its own flag
      line_feed_is_sent — a flag with a line feed at its end reaches the server

  So the server is sent one atom exactly if no line feed ends the flag.
-/
namespace Mailroom.Imap

open Mailroom.Text Mailroom.Simulation

/-! ## §1. Atoms. -/

/-- The characters that end an atom, apart from white space. -/
def atomSpecials : List Char := "()\x7b\x7d\"%*]".toList

/-- **A flag that is one atom**: no white space, and so no line break, and nothing else
that would end it; a backslash at most in front; and in a list of flags it is the one that
is read. -/
structure IsAtom (flag : String) : Prop where
  solid : ∀ c ∈ flag.toList, isBlank c = false
  plain : ∀ c ∈ flag.toList, c ∉ atomSpecials
  backslash : '\\' ∉ flag.toList.tail
  readBack : flagsOf (octets "FLAGS (" ++ (encode flag ++ octets ")")) = [flag]

section

variable {flag : String} {c : Char}

/-- A character of an atom is no blank, nothing special and no backslash. -/
theorem isAtomChar_iff :
    isAtomChar c = true ↔ isBlank c = false ∧ c ∉ atomSpecials ∧ c ≠ '\\' := by
  have hall : "()\x7b\x7d\"%*]\\".toList = atomSpecials ++ ['\\'] := by decide
  rw [isAtomChar, hall, Bool.and_eq_true, Bool.not_eq_true', Bool.not_eq_true',
    ← Bool.not_eq_true, ← Bool.not_eq_true, List.contains_iff_mem, List.mem_append,
    List.mem_singleton, not_or]

/-- The flags of a list with one flag in it. -/
theorem flagsOf_single (h : IsOneWord flag) :
    flagsOf (octets "FLAGS (" ++ (encode flag ++ octets ")")) = [flag] := by
  have hclose : 41 ∉ encode flag :=
    h.not_mem (d := ')') (by decide) (by decide) (by decide)
  have hitem : flagsItem? (octets "FLAGS (" ++ (encode flag ++ octets ")")) = some (encode flag) :=
    flagsItem?_list hclose
  have hfirst : firstAtWord? flagsItem? false (octets "FLAGS (" ++ (encode flag ++ octets ")"))
      = some (encode flag) := firstAtWord?_of_some hitem
  have hread := flags_read (List.forall_mem_singleton.2 h)
  rw [flagOctets, List.map_singleton, List.intercalate_singleton] at hread
  rw [flagsOf, hfirst]
  exact hread

theorem IsOneWord.isAtom (h : IsOneWord flag) : IsAtom flag where
  solid c hc := by
    rcases h.mem hc with rfl | hchar
    · rfl
    · exact (isAtomChar_iff.1 hchar).1
  plain c hc := by
    rcases h.mem hc with rfl | hchar
    · decide
    · exact (isAtomChar_iff.1 hchar).2.1
  backslash hmem := by
    -- Behind its first character a flag has characters of its body only.
    have hbody : '\\' ∈ flagBody flag.toList := by
      rcases flagBody_cases flag.toList with heq | heq <;> rw [heq] at hmem
      · exact List.mem_of_mem_tail hmem
      · exact hmem
    exact (isAtomChar_iff.1 ((isOneWord_iff.1 h).2 _ hbody)).2.2 rfl
  readBack := flagsOf_single h

/-! ## §2. What the check lets through. -/

theorem flagBody_concat (cs : List Char) (c : Char) (hc : c ≠ '\\') :
    flagBody (cs ++ [c]) = flagBody cs ++ [c] := by
  cases cs with
  | nil =>
    rw [List.nil_append, flagBody]
    · rfl
    · exact fun _ heq => hc (List.cons.inj heq).1
  | cons d cs =>
    by_cases hd : d = '\\'
    · rw [hd]
      rfl
    · rw [List.cons_append, flagBody, flagBody]
      · rfl
      · exact fun _ heq => hd (List.cons.inj heq).1
      · exact fun _ heq => hd (List.cons.inj heq).1

/-- With a line feed at its end a flag is let through as it is without. -/
theorem isFlag_line_feed : isFlag (flag ++ "\n") = true ↔ IsOneWord flag := by
  have hlist : (flag ++ "\n").toList = flag.toList ++ ['\n'] := String.toList_append
  have hwithout : withoutFinalLineFeed (flagBody flag.toList ++ ['\n']) = flagBody flag.toList := by
    rw [withoutFinalLineFeed, List.getLast?_concat, if_pos (by rfl), List.dropLast_concat]
  rw [isFlag, hlist, flagBody_concat _ _ (by decide), hwithout, isOneWord_iff, Bool.and_eq_true,
    List.all_eq_true, Bool.not_eq_true', List.isEmpty_eq_false_iff]

/-- Where no line feed ends a flag, one is not let through inside it either. -/
theorem isFlag_without (hlast : flag.toList.getLast? ≠ some '\n') :
    isFlag flag = true ↔ IsOneWord flag := by
  refine ⟨fun hflag => ?_, IsOneWord.sendable⟩
  have hbody : (flagBody flag.toList).getLast? ≠ some '\n' := by
    intro hbody
    apply hlast
    rcases flagBody_cases flag.toList with heq | heq <;> rw [heq]
    · exact hbody
    · rw [List.getLast?_cons, hbody]
      rfl
  rw [isFlag, withoutFinalLineFeed, if_neg (by simpa using hbody), Bool.and_eq_true,
    List.all_eq_true, Bool.not_eq_true', List.isEmpty_eq_false_iff] at hflag
  exact isOneWord_iff.2 hflag

/-- **What the check lets through**: one word, or one word and a line feed behind it. -/
theorem isFlag_iff : isFlag flag = true ↔
    IsOneWord flag ∨ ∃ word, IsOneWord word ∧ flag = word ++ "\n" := by
  constructor
  · intro hflag
    by_cases hlast : flag.toList.getLast? = some '\n'
    · obtain ⟨cs, hcs⟩ := List.getLast?_eq_some_iff.1 hlast
      obtain rfl : flag = String.ofList cs ++ "\n" := by
        rw [← String.toList_inj, String.toList_append, String.toList_ofList, hcs]
        rfl
      exact .inr ⟨_, isFlag_line_feed.1 hflag, rfl⟩
    · exact .inl ((isFlag_without hlast).1 hflag)
  · rintro (h | ⟨word, h, rfl⟩)
    · exact h.sendable
    · exact isFlag_line_feed.2 h

/-- **Of what the check lets through, one atom is what no line feed ends.** -/
theorem isAtom_iff (h : isFlag flag = true) :
    IsAtom flag ↔ flag.toList.getLast? ≠ some '\n' := by
  constructor
  · intro hatom hlast
    have hblank := hatom.solid _ (List.mem_of_getLast? hlast)
    exact absurd hblank (by decide)
  · intro hlast
    exact ((isFlag_without hlast).1 h).isAtom

end

/-! ## §3. Flags in commands. -/

/-- The flag in a command, or the search key that stands for one. -/
def flagArgument? : Mailroom.Command → Option String
  | .imap (.store _ _ flag) => some flag
  | .imap (.search (.keyword flag)) | .imap (.search (.unkeyword flag)) => some flag
  | .imap (.search (.system key)) => some key
  | _ => none

section

variable {flag key sent : String} {c : Call} {cmd : Mailroom.Command}

theorem flagArgument_criterionOf (flag : String) :
    flagArgument? (.imap (.search (criterionOf flag))) = some ((systemKey? flag).getD flag) := by
  rw [criterionOf]
  cases systemKey? flag <;> rfl

/-- A call sends the flag that it was given, or the search key of it. -/
theorem Call.Says.flagArgument (h : c.Says cmd) (hc : c.flag? = some flag)
    (hsent : flagArgument? cmd = some sent) : sent = flag ∨ systemKey? flag = some sent := by
  cases h with
  | search h =>
    cases c with
    | countFlag folder f =>
      obtain rfl : f = flag := Option.some.inj hc
      obtain rfl := Option.some.inj h
      rw [flagArgument_criterionOf, Option.some_inj] at hsent
      cases hkey : systemKey? f with
      | none => exact .inl (by rw [← hsent, hkey]; rfl)
      | some key => exact .inr (by rw [← hsent, hkey]; rfl)
    | fetchPage _ _ _ | fetchUnclassified _ _ => cases hc
    | _ => cases h
  | set folder uid f | remove folder uid f =>
    obtain rfl : f = flag := Option.some.inj hc
    exact .inl (Option.some.inj hsent).symm
  | _ => cases hsent

/-- The system flags that have a search key, each with its key. -/
def systemKeys : List (String × String) :=
  [("\\Seen", "SEEN"), ("\\Answered", "ANSWERED"), ("\\Flagged", "FLAGGED"),
    ("\\Deleted", "DELETED"), ("\\Draft", "DRAFT")]

theorem mem_systemKeys (h : systemKey? flag = some key) : (flag, key) ∈ systemKeys := by
  have hlookup : systemKeys.lookup flag = some key := h
  obtain ⟨before, after, hlist, -⟩ := List.lookup_eq_some_iff.1 hlookup
  rw [hlist]
  exact List.mem_append_right _ List.mem_cons_self

/-- A system flag and its search key are words. -/
theorem isOneWord_system (h : systemKey? flag = some key) : IsOneWord flag ∧ IsOneWord key := by
  have hall : ∀ entry ∈ systemKeys, IsOneWord entry.1 ∧ IsOneWord entry.2 := by decide
  exact hall (flag, key) (mem_systemKeys h)

/-- **A call is refused, or it sends its own flag.**  On a connection in any state a call
that is given a flag ends before it asks anything, or on every run each flag in its
commands is the one it was given, or the search key of it, and is one atom exactly if no
line feed ends the flag. -/
theorem flag_argument (hc : c.flag? = some flag) (ss : Session) :
    c.program.run.run ss = .pure (.error (.flag flag), ss) ∨
      ∀ {σ : Type} {law : Law σ} {s t : σ} {tr : List Event}
        {d : Dialogue (Except Failure Unit × Session)},
        Dialogue.Reaches law (c.program.run.run ss) s tr d t →
        ∀ ev ∈ tr, ∀ sent ∈ flagArgument? ev.1, (sent = flag ∨ systemKey? flag = some sent) ∧
          (IsAtom sent ↔ flag.toList.getLast? ≠ some '\n') := by
  cases hflag : isFlag flag with
  | false => exact .inl (Call.program_refused hc hflag ss)
  | true =>
    refine .inr fun run ev hev sent hsent => ?_
    have hwhich := (Call.said run ev hev).flagArgument hc hsent
    refine ⟨hwhich, ?_⟩
    rcases hwhich with rfl | hkey
    · exact isAtom_iff hflag
    · -- A search key is one atom, and so is the system flag it stands for.
      obtain ⟨hsystem, hword⟩ := isOneWord_system hkey
      exact iff_of_true hword.isAtom ((isAtom_iff hflag).1 hsystem.isAtom)

end

/-! ## §4. A flag with a line feed. -/

namespace Sample

/-- A flag that is let through though a line feed ends it. -/
def split : Call := .setFlag inbox 1 "interested\n"

/-- The folder is selected, and the flag is set. -/
def willing : Script where
  replies := [done "1", done "1 (FLAGS (interested))"]

end Sample

open Sample in
theorem flag_argument_sample : tag.flag? = some "interested" ∧
    ∀ ev ∈ (tag.program.run.run fresh).trace Script.answer willing,
      ∀ sent ∈ flagArgument? ev.1, (sent = "interested" ∨ systemKey? "interested" = some sent) ∧
        (IsAtom sent ↔ "interested".toList.getLast? ≠ some '\n') := by
  have hc : tag.flag? = some "interested" := rfl
  have hrun := Dialogue.ends_lawOf Script.answer (tag.program.run.run fresh) willing
  refine ⟨hc, ?_⟩
  rcases flag_argument hc fresh with hrefused | hsent
  · rw [hrefused]
    exact nofun
  · exact hsent hrun

open Sample in
/-- A flag that ends in a line feed is not refused, and it is sent as it is. -/
theorem line_feed_is_sent :
    ¬ ∀ (c : Call) (flag : String), c.flag? = some flag → ∀ (ss : Session) (script : Script),
      c.program.run.run ss = .pure (.error (.flag flag), ss) ∨
        ∀ ev ∈ (c.program.run.run ss).trace Script.answer script,
          ∀ sent ∈ flagArgument? ev.1, IsAtom sent := by
  intro h
  have hsent : ((split.program.run.run fresh).trace Script.answer willing).any
      (fun ev => flagArgument? ev.1 == some "interested\n") = true := by
    decide +kernel
  obtain ⟨ev, hev, harg⟩ := List.any_eq_true.1 hsent
  rcases h split "interested\n" rfl fresh willing with hrefused | hatoms
  · rw [hrefused] at hev
    cases hev
  · have hatom := hatoms ev hev _ (beq_iff_eq.1 harg)
    have hflag : isFlag "interested\n" = true := by decide
    exact (isAtom_iff hflag).1 hatom (by decide)

end Mailroom.Imap
