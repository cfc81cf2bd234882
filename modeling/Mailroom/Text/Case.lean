import Mailroom.Text.LowerTables
/-!
  Mailroom.Text.Case
  ────────────────────────────────
  **LOWER-CASING, AND COMPARISON WITH ASCII WORDS IN ANY LETTER CASE.**

  `lower` maps every letter to its lower-case form.  Two letters do not map one
  to one: U+0130 becomes `i` and a combining dot, and a capital sigma takes its
  final form at the end of a word, that is after a cased character and not
  before one, case-ignorable characters aside.

  `capital` is upper-casing as far as it can produce an ASCII letter from one
  character: besides `a` … `z` only the dotless i and the long s do.
-/
namespace Mailroom.Text

/-! ## §1. Single characters. -/

/-- The lower-case form of an ASCII letter; other characters are kept. -/
def lowerAscii (c : Char) : Char :=
  if 65 ≤ c.toNat && c.toNat ≤ 90 then Char.ofNat (c.toNat + 32) else c

/-- The upper-case form of an ASCII letter; other characters are kept. -/
def upperAscii (c : Char) : Char :=
  if 97 ≤ c.toNat && c.toNat ≤ 122 then Char.ofNat (c.toNat - 32) else c

/-- The upper-case form as far as it is an ASCII letter; other characters are
kept. -/
def capital (c : Char) : Char :=
  if c.toNat == 0x131 then 'I' else if c.toNat == 0x17F then 'S' else upperAscii c

/-- The run that holds the code point `n`, if one does. -/
def lowerRun? (n : Nat) : Option LowerRun :=
  lowerRuns.find? fun r => r.first ≤ n && n ≤ r.last && (n - r.first) % r.step == 0

/-- The lower-case form of a character, the context of a sigma aside. -/
def lowerChar (c : Char) : List Char :=
  let n := c.toNat
  if n < 128 then [lowerAscii c]
  else if n == 0x130 then ['i', Char.ofNat 0x307]
  else if n == 0x3A3 then [Char.ofNat 0x3C3]
  else match lowerRun? n with
    | some r => [Char.ofNat (n + r.up - r.down)]
    | none => [c]

/-! ## §2. The capital sigma. -/

/-- Case-ignorable characters: they do not end a word. -/
def isCaseIgnorable (c : Char) : Bool :=
  let n := c.toNat
  if n < 128 then n == 0x27 || n == 0x2E || n == 0x3A || n == 0x5E || n == 0x60
  else caseIgnorable.contains n

/-- Cased characters that are not case-ignorable. -/
def isCased (c : Char) : Bool :=
  let n := c.toNat
  if n < 128 then (65 ≤ n && n ≤ 90) || (97 ≤ n && n ≤ 122) else cased.contains n

/-- Whether the nearest character that is not case-ignorable is cased. -/
def nextIsCased (cs : List Char) : Bool :=
  match cs.dropWhile isCaseIgnorable with
  | [] => false
  | c :: _ => isCased c

/-- Lower-cases `cs`, where `before` is what precedes it, nearest first. -/
def lowerFrom (before : List Char) : List Char → List Char
  | [] => []
  | c :: cs =>
    (if c.toNat == 0x3A3 && nextIsCased before && !nextIsCased cs
      then [Char.ofNat 0x3C2] else lowerChar c) ++ lowerFrom (c :: before) cs

/-- Lower-cases a list of characters. -/
def lowerChars (cs : List Char) : List Char := lowerFrom [] cs

/-! ## §3. Texts. -/

/-- Lower-cases a text. -/
def lower (s : String) : String := String.ofList (lowerChars s.toList)

/-- Lower-cases the ASCII letters of a text. -/
def lowerAsciiText (s : String) : String := s.map lowerAscii

/-- Whether `s` is the ASCII word `word`, written in capitals, in some letter
case. -/
def isWord (word s : String) : Bool := s.toList.map capital == word.toList

end Mailroom.Text
