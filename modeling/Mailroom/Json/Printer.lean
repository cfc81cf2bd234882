import Mailroom.Json.Basic
/-!
  Mailroom.Json.Printer
  ────────────────────────────────
  **WRITING JSON TEXT.**

  One line, a blank after each comma and colon; characters outside printable
  ASCII are written by their 16-bit units.  A decimal is written in its
  shortest form.
-/
namespace Mailroom.Json

/-- One 16-bit unit as an escape. -/
def unitEscape (n : Nat) : List Char := '\\' :: 'u' :: Text.hexDigits 4 n

/-- How a character stands in a JSON text. -/
def writeChar (c : Char) : List Char :=
  let n := c.toNat
  if c == '"' || c == '\\' then ['\\', c]
  else if c == '\n' then ['\\', 'n']
  else if c == '\r' then ['\\', 'r']
  else if c == '\t' then ['\\', 't']
  else if 32 ≤ n && n < 127 then [c]
  else if n < 0x10000 then unitEscape n
  else unitEscape (0xD800 + (n - 0x10000) / 0x400) ++ unitEscape (0xDC00 + (n - 0x10000) % 0x400)

/-- A text between quotes. -/
def writeText (s : String) : String :=
  String.ofList ('"' :: s.toList.flatMap writeChar ++ ['"'])

mutual

/-- A value as JSON text. -/
def write : Json → String
  | .null => "null"
  | .bool true => "true"
  | .bool false => "false"
  | .int n => toString n
  | .float x => x.shortest
  | .text s => writeText s
  | .list items => "[" ++ ", ".intercalate (writeItems items) ++ "]"
  | .object fields => "\x7b" ++ ", ".intercalate (writeFields fields) ++ "\x7d"

/-- The items of a list as JSON texts. -/
def writeItems : List Json → List String
  | [] => []
  | v :: vs => write v :: writeItems vs

/-- The fields of an object as JSON texts. -/
def writeFields : List (String × Json) → List String
  | [] => []
  | (k, v) :: rest => (writeText k ++ ": " ++ write v) :: writeFields rest

end

end Mailroom.Json
