import Mailroom.Text.Blank
import Mailroom.Text.Case
/-!
  Mailroom.Imap.MailboxName
  ────────────────────────────────
  **FOLDER NAMES IN COMMANDS, AND THE NAMES OF SENT FOLDERS.**

  In a command a folder name stands between quotes, with a backslash before each
  quote and each backslash.  Where a server does not mark its sent folder, the
  name follows from the host.
-/
namespace Mailroom.Imap

open Mailroom.Text

/-- A character of a quoted name. -/
def escapedNameChar (c : Char) : List Char :=
  if c == '\\' || c == '"' then ['\\', c] else [c]

/-- A folder name between quotes. -/
def quotedName (name : String) : String :=
  String.ofList ('"' :: name.toList.flatMap escapedNameChar ++ ['"'])

/-- The usual name of the sent folder on a host. -/
def sentFolderFor (host : String) : String :=
  let h := lower host
  if contains h "gmail" then "[Gmail]/Sent Mail"
  else if contains h "outlook" || contains h "office365" then "Sent Items"
  else "Sent"

end Mailroom.Imap
