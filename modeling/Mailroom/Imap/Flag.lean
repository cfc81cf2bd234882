import Mailroom.Text.Blank
import Mailroom.Text.Quoted
/-!
  Mailroom.Imap.Flag
  ────────────────────────────────
  **FLAGS THAT CAN BE SENT TO A SERVER.**

  A flag is one atom: an optional backslash and then characters that are neither
  white space nor special in commands.  One line feed at the end is let through.
-/
namespace Mailroom.Imap

open Mailroom.Text

/-- A character of a flag behind the optional backslash. -/
def isAtomChar (c : Char) : Bool :=
  !isBlank c && !("()\x7b\x7d\"%*]\\".toList.contains c)

/-- The flag without its leading backslash. -/
def flagBody : List Char → List Char
  | '\\' :: cs => cs
  | cs => cs

/-- The characters without one line feed at the end. -/
def withoutFinalLineFeed (cs : List Char) : List Char :=
  if cs.getLast? == some '\n' then cs.dropLast else cs

/-- Whether a flag can be sent. -/
def isFlag (flag : String) : Bool :=
  let body := withoutFinalLineFeed (flagBody flag.toList)
  !body.isEmpty && body.all isAtomChar

/-- The message for a flag that cannot be sent. -/
def invalidFlagMessage (flag : String) : String :=
  s!"Invalid flag {quoted flag}: flags must be a single word without spaces, "
    ++ "parentheses, quotes or wildcards"

/-- The search key of a system flag. -/
def systemKey? (flag : String) : Option String :=
  [("\\Seen", "SEEN"), ("\\Answered", "ANSWERED"), ("\\Flagged", "FLAGGED"),
    ("\\Deleted", "DELETED"), ("\\Draft", "DRAFT")].lookup flag

end Mailroom.Imap
