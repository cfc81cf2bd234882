import Mailroom.Text.Blank
import Mailroom.Text.DecimalDigit
import Mailroom.Text.Ranges
/-!
  Mailroom.Yaml.Implicit
  ────────────────────────────────
  **WHAT A PLAIN SCALAR IS TAKEN FOR.**

  A plain scalar is a truth value, a decimal, an integer, a merge key, nothing at
  all, a point in time or a default key if its text has the form of one, and a
  text otherwise.  Integers may be binary, octal or hexadecimal, and integers and
  decimals may be written to base 60.
-/
namespace Mailroom.Yaml

open Mailroom.Text

/-! ## §1. Tags. -/

/-- What the tags of the standard types start with. -/
def tagBase : String := "tag:yaml.org,2002:"

/-- The tag of a standard type. -/
def standard (name : String) : String := tagBase ++ name

/-! ## §2. Forms. -/

/-- A text without its sign. -/
def unsigned (cs : List Char) : List Char :=
  match cs with
  | c :: rest => if c == '-' || c == '+' then rest else cs
  | [] => []

/-- A digit or an underscore. -/
def isDigitOrBar (c : Char) : Bool := isDigit c || c == '_'

/-- An octal digit or an underscore. -/
def isOctalOrBar (c : Char) : Bool := ('0' ≤ c && c ≤ '7') || c == '_'

/-- A hexadecimal digit or an underscore. -/
def isHexOrBar (c : Char) : Bool := (hexDigit? c).isSome || c == '_'

/-- Whether all of at least one characters satisfy `p`. -/
def someAll (p : Char → Bool) (cs : List Char) : Bool := !cs.isEmpty && cs.all p

/-- A place of a number to base 60: up to two digits, at most 59. -/
def isSixtieth (cs : List Char) : Bool :=
  match cs with
  | [a] => isDigit a
  | [a, b] => '0' ≤ a && a ≤ '5' && isDigit b
  | _ => false

/-- The parts of a text between colons. -/
def colonParts (cs : List Char) : List (List Char) := splitOn (· == ':') cs

/-- An integer. -/
def isInteger (cs : List Char) : Bool :=
  let body := unsigned cs
  match body with
  | '0' :: 'b' :: rest => someAll (fun c => c == '0' || c == '1' || c == '_') rest
  | '0' :: 'x' :: rest => someAll isHexOrBar rest
  | '0' :: rest => rest.all isOctalOrBar
  | c :: _ =>
    isDigit c &&
      match colonParts body with
      | whole :: places => whole.all isDigitOrBar && places.all isSixtieth
      | [] => false
  | [] => false

/-- The exponent of a decimal, or nothing. -/
def isExponent (cs : List Char) : Bool :=
  match cs with
  | [] => true
  | e :: s :: digits => (e == 'e' || e == 'E') && (s == '-' || s == '+') && someAll isDigit digits
  | _ => false

/-- A decimal. -/
def isDecimal (cs : List Char) : Bool :=
  let body := unsigned cs
  let whole := body.takeWhile isDigitOrBar
  match body with
  | ['.', 'i', 'n', 'f'] | ['.', 'I', 'n', 'f'] | ['.', 'I', 'N', 'F'] => true
  | '.' :: rest =>
    ["nan".toList, "NaN".toList, "NAN".toList].contains (cs.drop 1) && cs.head? == some '.'
      || (cs.head? == some '.' && (rest.head?.map isDigit).getD false
        && isExponent (rest.dropWhile isDigitOrBar))
  | c :: _ =>
    isDigit c &&
      match body.dropWhile isDigitOrBar with
      | '.' :: rest => isExponent (rest.dropWhile isDigitOrBar)
      | ':' :: _ =>
        match splitOn (· == '.') body with
        | [places, fraction] =>
          ((colonParts places).drop 1).all isSixtieth && fraction.all isDigitOrBar && !whole.isEmpty
        | _ => false
      | _ => false
  | [] => false

/-! ## §3. Points in time. -/

/-- The digits, from `least` to two of them, at the start of a text, and the
rest. -/
def upToTwo? (least : Nat) (cs : List Char) : Option (List Char × List Char) :=
  let digits := (cs.take 2).takeWhile isDigit
  if least ≤ digits.length then some (digits, cs.drop digits.length) else none

/-- The rest of a text behind a character. -/
def after? (c : Char) (cs : List Char) : Option (List Char) :=
  match cs with
  | x :: rest => if x == c then some rest else none
  | [] => none

/-- The parts of a point in time, as they are written; the time of day and the
offset from universal time may be missing. -/
structure TimeParts where
  year : List Char
  month : List Char
  day : List Char
  clock : Option (List Char × List Char × List Char) := none
  /-- Sign, hours and minutes of the offset. -/
  offset : Option (Bool × List Char × List Char) := none
  deriving Repr

/-- Reads an offset, which must be all that is left. -/
def offset? (cs : List Char) : Option (Option (Bool × List Char × List Char)) :=
  let cs := cs.dropWhile fun c => c == ' ' || c == '\t'
  match cs with
  | ['Z'] => some none
  | s :: rest => do
    guard (s == '+' || s == '-')
    let (hours, rest) ← upToTwo? 1 rest
    if rest.isEmpty then return some (s == '-', hours, [])
    else
      let (minutes, rest) ← upToTwo? 2 (← after? ':' rest)
      guard rest.isEmpty
      return some (s == '-', hours, minutes)
  | [] => none

/-- Reads a point in time. -/
def timeParts? (cs : List Char) : Option TimeParts := do
  let year := cs.take 4
  guard (year.length == 4 && year.all isDigit)
  let (month, rest) ← upToTwo? 1 (← after? '-' (cs.drop 4))
  let (day, rest) ← upToTwo? 1 (← after? '-' rest)
  if rest.isEmpty then return { year, month, day }
  else
    let rest ← match rest with
      | 'T' :: r | 't' :: r => some r
      | c :: r =>
        if c == ' ' || c == '\t' then some (r.dropWhile fun c => c == ' ' || c == '\t') else none
      | [] => none
    let (hour, rest) ← upToTwo? 1 rest
    let (minute, rest) ← upToTwo? 2 (← after? ':' rest)
    let (second, rest) ← upToTwo? 2 (← after? ':' rest)
    let rest := match rest with
      | '.' :: r => r.dropWhile isDigit
      | r => r
    let clock := some (hour, minute, second)
    if rest.isEmpty then return { year, month, day, clock }
    else return { year, month, day, clock, offset := ← offset? rest }

/-- A point in time: a day needs two digits for month and day. -/
def isTime (cs : List Char) : Bool :=
  match timeParts? cs with
  | some t => t.clock.isSome || (t.month.length == 2 && t.day.length == 2)
  | none => false

/-! ## §4. The type that a text implies. -/

/-- The texts of truth values. -/
def boolWords : List (String × Bool) :=
  [("yes", true), ("no", false), ("true", true), ("false", false), ("on", true), ("off", false)]

/-- A word in one of its three usual spellings. -/
def isSpelled (word : String) (cs : List Char) : Bool :=
  let w := word.toList
  cs == w || cs == w.map Char.toUpper || cs == (w.take 1).map Char.toUpper ++ w.drop 1

/-- The characters of a text whose form decides on its type: a line feed at the end does not
count. -/
def formOf (text : String) : List Char :=
  let cs := text.toList
  if cs.getLast? == some '\n' then cs.dropLast else cs

/-- The tag that a plain text implies. -/
def impliedTag (text : String) : String :=
  let cs := formOf text
  standard <|
    if boolWords.any fun w => isSpelled w.1 cs then "bool"
    else if isDecimal cs then "float"
    else if isInteger cs then "int"
    else if cs == ['<', '<'] then "merge"
    else if text.isEmpty || cs == ['~'] || isSpelled "null" cs then "null"
    else if isTime cs then "timestamp"
    else if cs == ['='] then "value"
    else "str"

end Mailroom.Yaml
