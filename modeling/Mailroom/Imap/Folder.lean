import Mailroom.Imap.Wire
import Mailroom.Text.Replace
import Mailroom.Text.DecimalDigit
/-!
  Mailroom.Imap.Folder
  ────────────────────────────────
  **FOLDERS IN A LIST RESPONSE.**

  A line states the attributes of a folder, the hierarchy delimiter or NIL, and
  the name:

      (\HasNoChildren \Sent) "/" "Sent Items"

  A name may also come as a literal; it is then put between quotes in place of
  the announcement of its length.  Lines of another form are passed over.
-/
namespace Mailroom.Imap

open Mailroom.Text

/-! ## §1. Folders. -/

/-- A folder of a mailbox. -/
structure Folder where
  name : String
  attributes : List String
  delimiter : Option String
  deriving Repr, DecidableEq

/-- The attributes that mark a folder for a special use, the first to be
reported first. -/
def specialUses : List String :=
  ["\\Sent", "\\Drafts", "\\Trash", "\\Junk", "\\Archive", "\\All", "\\Flagged"]

/-- The special use of a folder, if it has one. -/
def Folder.specialUse? (f : Folder) : Option String :=
  specialUses.find? f.attributes.contains

/-! ## §2. Parts of a line. -/

/-- The text of a word without the quotes around it, its escaped quotes and
backslashes read as one character each. -/
def unquote (bs : Octets) : String :=
  let cs := decodeChars bs
  match cs with
  | '"' :: rest =>
    if rest.getLast? == some '"' then
      String.ofList (replaceAll ['\\', '\\'] ['\\'] (replaceAll ['\\', '"'] ['"'] rest.dropLast))
    else String.ofList cs
  | _ => String.ofList cs

/-- Reads up to the next quote that is not escaped; the octets before it and
those behind it. -/
def upToQuote? : Octets → Option (Octets × Octets)
  | [] => none
  | 34 :: rest => some ([], rest)
  | 92 :: b :: rest =>
    if b == 10 then none
    else (upToQuote? rest).map fun (inner, after) => (92 :: b :: inner, after)
  | 92 :: [] => none
  | b :: rest => (upToQuote? rest).map fun (inner, after) => (b :: inner, after)

/-- Reads a delimiter and the blank behind it. -/
def delimiter? (bs : Octets) : Option (Option String × Octets) :=
  match bs with
  | 34 :: rest =>
    match upToQuote? rest with
    | some (inner, 32 :: after) => some (some (unquote (34 :: inner ++ [34])), after)
    | _ => none
  | 78 :: 73 :: 76 :: 32 :: after => some (none, after)
  | _ => none

/-- The folder a trimmed line states. -/
def folderOfLine? (line : Octets) : Option Folder :=
  match line with
  | 40 :: rest =>
    match rest.dropWhile (· ≠ 41) with
    | 41 :: 32 :: after =>
      match delimiter? after with
      | some (delimiter, name) =>
        if name.isEmpty || name.contains 10 then none
        else some {
          name := unquote (trimBytes name)
          attributes := (byteWords (rest.takeWhile (· ≠ 41))).map decodeAscii
          delimiter }
      | none => none
    | _ => none
  | _ => none

/-! ## §3. Responses. -/

/-- A line without the announcement of a literal, `{n}`, at its end. -/
def withoutSize (line : Octets) : Octets :=
  match (dropEndWhile isByteBlank line).reverse with
  | 125 :: r =>
    match r.takeWhile isByteDigit, r.dropWhile isByteDigit with
    | _ :: _, 123 :: before => before.reverse
    | _, _ => line
  | _ => line

/-- The line that an item states. -/
def lineOf? : Item → Except WireFault (Option Octets)
  | .absent => .ok none
  | .line bs => .ok (some bs)
  | .group (header :: name :: _) => .ok (some (withoutSize header ++ 34 :: name ++ [34]))
  | .group _ => .error .shortGroup

/-- The folders of a LIST response. -/
def readFolders (items : List Item) : Except WireFault (List Folder) := do
  let lines ← items.mapM lineOf?
  return lines.filterMap fun line => line.bind fun bs => folderOfLine? (trimBytes bs)

end Mailroom.Imap
