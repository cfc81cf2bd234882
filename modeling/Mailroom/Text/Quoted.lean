import Mailroom.Text.Printable
/-!
  Mailroom.Text.Quoted
  ────────────────────────────────
  **QUOTED TEXTS AND BYTES IN MESSAGES.**

  A text is shown between single quotes, or between double quotes when it holds
  a single and no double quote.  Backslashes and the chosen quote are escaped,
  tab, line feed and carriage return have letters, and other characters that
  are not printable are written by their code point.
-/
namespace Mailroom.Text

/-! ## §1. Hexadecimal. -/

/-- A hexadecimal digit in lower case. -/
def hexChar (n : Nat) : Char :=
  Char.ofNat (if n < 10 then 48 + n else 87 + n)

/-- `n` as exactly `width` hexadecimal digits, the low ones. -/
def hexDigits (width n : Nat) : List Char :=
  (List.range width).map fun i => hexChar (n / Nat.pow 16 (width - 1 - i) % 16)

/-! ## §2. Quoting. -/

/-- The quote for a text: double when it holds single quotes and no double
ones. -/
def quoteFor (cs : List Char) : Char :=
  if cs.contains '\'' && !cs.contains '"' then '"' else '\''

/-- How one character of a text stands between quotes. -/
def escapeChar (quote c : Char) : List Char :=
  let n := c.toNat
  if c == quote || c == '\\' then ['\\', c]
  else if c == '\t' then ['\\', 't']
  else if c == '\n' then ['\\', 'n']
  else if c == '\r' then ['\\', 'r']
  else if isPrintable c then [c]
  else if n < 0x100 then '\\' :: 'x' :: hexDigits 2 n
  else if n < 0x10000 then '\\' :: 'u' :: hexDigits 4 n
  else '\\' :: 'U' :: hexDigits 8 n

/-- A quoted list of characters. -/
def quoteChars (cs : List Char) : List Char :=
  let q := quoteFor cs
  q :: cs.flatMap (escapeChar q) ++ [q]

/-- A quoted text. -/
def quoted (s : String) : String := String.ofList (quoteChars s.toList)

/-- A quoted byte text, marked by `b`; bytes above ASCII are written by their
value. -/
def quotedBytes (bs : List UInt8) : String :=
  let cs := bs.map fun b => Char.ofNat b.toNat
  let q := quoteFor cs
  let escape (c : Char) : List Char :=
    if c.toNat < 128 then escapeChar q c else '\\' :: 'x' :: hexDigits 2 c.toNat
  String.ofList ('b' :: q :: cs.flatMap escape ++ [q])

end Mailroom.Text
