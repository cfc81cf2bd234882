import Mailroom.Mime.Phrase
import Mailroom.Mail.Date
import Mailroom.Number.Reading
/-!
  Mailroom.Mime.DateField
  ────────────────────────────────
  **DATE HEADERS.**

      Sat, 01 Mar 2025 09:30:00 +0100

  The name of the day, the seconds and the zone may be missing, month and day may
  change places, a year of two digits lies between 1969 and 2068, and time may be
  written with full stops.  A zone that is unknown or `-0000` leaves the date
  without an offset.
-/
namespace Mailroom.Mime

open Mailroom.Text Mailroom.Number Mailroom.Mail

/-! ## §1. Names. -/

/-- The names of the months, short and long. -/
def monthNames : List String :=
  ["jan", "feb", "mar", "apr", "may", "jun", "jul", "aug", "sep", "oct", "nov", "dec",
   "january", "february", "march", "april", "may", "june", "july", "august", "september",
   "october", "november", "december"]

/-- The short names of the days. -/
def dayNames : List String := ["mon", "tue", "wed", "thu", "fri", "sat", "sun"]

/-- The zones that have a name, in hundreds of hours and minutes. -/
def zoneNames : List (String × Int) :=
  [("UT", 0), ("UTC", 0), ("GMT", 0), ("Z", 0), ("AST", -400), ("ADT", -300), ("EST", -500),
   ("EDT", -400), ("CST", -600), ("CDT", -500), ("MST", -700), ("MDT", -600), ("PST", -800),
   ("PDT", -700)]

/-- The number of a month from its name. -/
def month? (word : List Char) : Option Nat :=
  (monthNames.idxOf? (String.ofList (lowerChars word))).map fun i => i % 12 + 1

/-! ## §2. The words of a date. -/

/-- The words without the name of the day in front. -/
def withoutDay : List (List Char) → List (List Char)
  | [] => []
  | w :: ws =>
    if w.getLast? == some ',' || dayNames.contains (String.ofList (lowerChars w)) then ws
    else (w.reverse.takeWhile (· ≠ ',')).reverse :: ws

/-- A day written `01-Mar-2025` as three words. -/
def splitDay : List (List Char) → List (List Char)
  | [w, a, b] =>
    match splitOn (· == '-') w with
    | [d, m, y] => [d, m, y, a, b]
    | _ => [w, a, b]
  | ws => ws

/-- Four words with the zone as a fifth: what follows a plus, or else a minus,
inside the time, or nothing. -/
def splitZone : List (List Char) → List (List Char)
  | [d, m, y, t] =>
    let mark := if t.contains '+' then '+' else '-'
    let time := t.takeWhile (· ≠ mark)
    if t.contains mark && !time.isEmpty then [d, m, y, time, t.drop time.length]
    else [d, m, y, t, []]
  | ws => ws

/-- A word without a comma at its end. -/
def withoutComma (w : List Char) : List Char :=
  if w.getLast? == some ',' then w.dropLast else w

/-- Hours, minutes and seconds of a time. -/
def clock? (time : List Char) : Option (List Char × List Char × List Char) :=
  match splitOn (· == ':') time with
  | [h, m] => some (h, m, ['0'])
  | [h, m, s] => some (h, m, s)
  | [t] =>
    match splitOn (· == '.') t with
    | [h, m] => some (h, m, ['0'])
    | [h, m, s] => some (h, m, s)
    | _ => none
  | _ => none

/-- The seconds east of universal time of a zone; nothing for an unknown one and
for `-0000`. -/
def zoneOffset? (zone : List Char) : Option Int :=
  let capitals := String.ofList (zone.map capital)
  let hundreds : Option Int :=
    match zoneNames.lookup capitals with
    | some n => some n
    | none =>
      match readInteger zone with
      | .ok n => if n == 0 && zone.head? == some '-' then none else some n
      | .error _ => none
  hundreds.map fun n =>
    let a := n.natAbs
    let seconds : Int := (a / 100 * 3600 + a % 100 * 60 : Nat)
    if n < 0 then -seconds else seconds

/-! ## §3. Calendar dates. -/

/-- The numbers of a date as they are written. -/
structure DateNumbers where
  year : Int
  month : Nat
  day : Int
  hour : Int
  minute : Int
  second : Int
  offset : Option Int

/-- A year, one of two digits completed. -/
def fullYear (y : Int) : Int :=
  if y < 100 then (if 68 < y then y + 1900 else y + 2000) else y

/-- The numbers of a date header; nothing if it is not of the form of a date. -/
def dateNumbers? (text : List Char) : Option DateNumbers := do
  let words := splitZone (splitDay (withoutDay (splitRuns isTrimmed text)))
  match words with
  | d :: m :: y :: t :: z :: _ =>
    if d.isEmpty || m.isEmpty || y.isEmpty then none
    else
      let (day, month) ← match month? m with
        | some n => some (d, n)
        | none => (month? d).map fun n => (m, n)
      let day := withoutComma day
      let colon := (y.takeWhile (· ≠ ':')).length
      let (y, t) := if 0 < colon && colon < y.length then (t, y) else (y, t)
      let y := withoutComma y
      let c ← y.head?
      let (y, z) := if (digitValue? c).isSome then (y, z) else (z, y)
      let (h, mi, s) ← clock? (withoutComma t)
      match readInteger y, readInteger day, readInteger h, readInteger mi, readInteger s with
      | .ok y, .ok day, .ok h, .ok mi, .ok s =>
        some ⟨fullYear y, month, day, h, mi, s, zoneOffset? z⟩
      | _, _, _, _, _ => none
  | _ => none

/-- The largest magnitudes of numbers of 32 and of 64 bits. -/
def int32Max : Int := 2147483647

/-- The largest number of 64 bits. -/
def int64Max : Int := 9223372036854775807

/-- Refuses a number beyond 32 bits. -/
def fits (n : Int) : Except HeaderFault Unit :=
  if int64Max < n || n < -int64Max - 1 then
    .error (.numberTooLarge "Python int too large to convert to C long")
  else if int32Max < n then .error (.numberTooLarge "signed integer is greater than maximum")
  else if n < -int32Max - 1 then
    .error (.numberTooLarge "signed integer is less than minimum")
  else .ok ()

/-- Refuses an offset of too many days. -/
def offsetFits (seconds : Int) : Except HeaderFault Unit :=
  let days := Int.fdiv seconds 86400
  if int32Max < days || days < -int32Max - 1 then
    .error (.numberTooLarge "Python int too large to convert to C int")
  else if 999999999 < days.natAbs then
    .error (.numberTooLarge s!"days={days}; must have magnitude <= 999999999")
  else .ok ()

/-- The date that numbers state, if there is such a date. -/
def dateOf? (n : DateNumbers) : Option Date :=
  let inRange (lo hi x : Int) : Bool := decide (lo ≤ x) && decide (x ≤ hi)
  let small := match n.offset with
    | some o => o.natAbs < 86400
    | none => true
  if small && inRange 1 9999 n.year && inRange 1 (Date.daysIn n.year.toNat n.month) n.day
      && inRange 0 23 n.hour && inRange 0 59 n.minute && inRange 0 59 n.second then
    some ⟨n.year.toNat, n.month, n.day.toNat, n.hour.toNat, n.minute.toNat, n.second.toNat,
      n.offset⟩
  else none

/-- Reads a date; a number that is too large stops the reader. -/
def readDate (text : List Char) : Except HeaderFault (Option Date) :=
  match dateNumbers? text with
  | none => .ok none
  | some n => do
    match n.offset with
    | some o =>
      offsetFits o
      if 86400 ≤ o.natAbs then return none
    | none => pure ()
    for x in [n.year, n.day, n.hour, n.minute, n.second] do
      fits x
    return dateOf? n

/-- The date of a header.  Octets outside ASCII are first taken for no characters
at all; if the date cannot be read, they are taken as UTF-8. -/
def headerDate (gs : Glyphs) : Except HeaderFault (Option Date) := do
  let characters := gs.map fun
    | .char c => c
    | .octet _ => replacement
  match ← readDate characters with
  | some d => return some d
  | none => readDate (shown gs).toList

end Mailroom.Mime
