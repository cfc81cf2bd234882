/-!
  Mailroom.Mail.Date
  ────────────────────────────────
  **POINTS IN TIME AS MESSAGES STATE THEM.**

  A date keeps the wall clock reading that a header states and, if it states
  one, the offset from universal time.
-/
namespace Mailroom.Mail

/-- A wall clock reading with an optional offset in seconds east of universal
time. -/
structure Date where
  year : Nat
  month : Nat
  day : Nat
  hour : Nat
  minute : Nat
  second : Nat
  offset : Option Int
  deriving Repr, DecidableEq

namespace Date

/-! ## §1. Calendar. -/

/-- Whether a year has a 29th of February. -/
def isLeap (year : Nat) : Bool :=
  year % 4 == 0 && (year % 100 != 0 || year % 400 == 0)

/-- The number of days of a month. -/
def daysIn (year month : Nat) : Nat :=
  match month with
  | 2 => if isLeap year then 29 else 28
  | 4 | 6 | 9 | 11 => 30
  | _ => 31

/-! ## §2. Writing. -/

/-- `n` in decimal with zeros in front up to `width` digits. -/
def padded (width n : Nat) : String :=
  let s := toString n
  String.ofList (List.replicate (width - s.length) '0') ++ s

/-- The calendar day, `YYYY-MM-DD`. -/
def dayText (d : Date) : String :=
  padded 4 d.year ++ "-" ++ padded 2 d.month ++ "-" ++ padded 2 d.day

/-- The offset as `+HH:MM`, with seconds if it has any. -/
def offsetText (offset : Int) : String :=
  let n := offset.natAbs
  (if offset < 0 then "-" else "+") ++ padded 2 (n / 3600) ++ ":" ++ padded 2 (n / 60 % 60)
    ++ (if n % 60 == 0 then "" else ":" ++ padded 2 (n % 60))

/-- The date in the form `YYYY-MM-DDTHH:MM:SS+HH:MM`; no offset if none is
stated. -/
def text (d : Date) : String :=
  d.dayText ++ "T" ++ padded 2 d.hour ++ ":" ++ padded 2 d.minute ++ ":" ++ padded 2 d.second
    ++ (match d.offset with | some o => offsetText o | none => "")

/-- The date to the minute, `YYYY-MM-DD HH:MM`. -/
def minuteText (d : Date) : String :=
  d.dayText ++ " " ++ padded 2 d.hour ++ ":" ++ padded 2 d.minute

end Date

end Mailroom.Mail
