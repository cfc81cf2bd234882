import Mailroom.Json.Misuse
import Mailroom.Text.Blank
import Mailroom.Text.Case
/-!
  Mailroom.Reply.Category
  ────────────────────────────────
  **WHAT A REPLY SAYS.**

  A reply falls into one of five categories or into none.  The name of a
  category is also the keyword written to its messages; `none` writes no
  keyword.  Answers of a language model are read leniently: quotes and full
  stops around the name, letter case, and blanks or hyphens for underscores do
  not matter, and what is not a name means none.
-/
namespace Mailroom.Reply

open Mailroom.Text

/-- The category of a reply. -/
inductive Category where
  | interested | complained | outOfOffice | unsubscribed | bounced | none
  deriving Repr, DecidableEq

namespace Category

/-! ## §1. Names. -/

/-- All categories, in the order of reports. -/
def all : List Category := [interested, complained, outOfOffice, unsubscribed, bounced, none]

/-- The name of a category. -/
def name : Category → String
  | interested => "interested"
  | complained => "complained"
  | outOfOffice => "out_of_office"
  | unsubscribed => "unsubscribed"
  | bounced => "bounced"
  | none => "none"

/-- The keyword written to messages of a category. -/
def keyword? : Category → Option String
  | none => Option.none
  | c => some c.name

/-- The category with a name. -/
def ofName? (s : String) : Option Category := all.find? (·.name == s)

/-! ## §2. Reading answers. -/

/-- The characters that may surround a name. -/
def isWrapping (c : Char) : Bool :=
  c == '.' || c == '"' || c == '\'' || c == (Char.ofNat 0x60)

/-- A name as it is written in the table: trimmed, unwrapped, in lower case and
with underscores. -/
def cleaned (s : String) : String :=
  let bare := trimWhile isWrapping (trimWhile isTrimmed s.toList)
  String.ofList ((lowerChars bare).map fun c => if c == '-' || c == ' ' then '_' else c)

/-- The category named by a text; none if it names no category. -/
def ofText (s : String) : Category := (ofName? (cleaned s)).getD none

/-- The category given as an answer of any shape: a value that is not given
means none, and one that is given has to be a text. -/
def ofAnswer (v : Json) : Except Json.Misuse Category :=
  if v.isGiven then (v.textFor "strip").map ofText else .ok none

end Category

end Mailroom.Reply
