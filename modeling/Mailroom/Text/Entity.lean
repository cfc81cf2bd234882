import Mailroom.Text.EntityTable
import Mailroom.Text.Charset
import Mailroom.Text.DecimalDigit
import Mailroom.Number.Reading
/-!
  Mailroom.Text.Entity
  ────────────────────────────────
  **CHARACTER REFERENCES OF HTML.**

  A reference is an ampersand with a name or a number.  Names are completed to
  the longest one known; numbers in the range of control characters are read as
  windows-1252, and noncharacters and controls are left out.
-/
namespace Mailroom.Text

/-! ## §1. Names. -/

/-- Bisection for `name` among the `size` names that start at index `lo`. -/
def searchNamed (name : String) (lo size : Nat) : Option String :=
  if _h : size = 0 then none
  else
    let half := size / 2
    match namedCharacters[lo + half]? with
    | none => none
    | some (n, text) =>
      if n == name then some text
      else if name < n then searchNamed name lo half
      else searchNamed name (lo + half + 1) (size - half - 1)
termination_by size
decreasing_by all_goals omega

/-- The text of a name as written, with or without its semicolon. -/
def named? (written : List Char) : Option String :=
  if written.getLast? == some ';' then
    searchNamed (String.ofList written.dropLast) 0 namedCharacters.size
  else
    let name := String.ofList written
    if bareNames.contains name then searchNamed name 0 namedCharacters.size else none

/-- The text of the longest known name in front of `written`, no shorter than
two characters, and the number of characters it takes. -/
def longestNamed? (written : List Char) : Nat → Option (String × Nat)
  | 0 | 1 => none
  | n + 1 =>
    match named? (written.take (n + 1)) with
    | some text => some (text, n + 1)
    | none => longestNamed? written n

/-! ## §2. Numbers. -/

/-- A code point whose reference stands for nothing. -/
def isNoncharacter (n : Nat) : Bool :=
  (1 ≤ n && n ≤ 8) || n == 0xB || (0xE ≤ n && n ≤ 0x1F) || (0x7F ≤ n && n ≤ 0x9F)
    || (0xFDD0 ≤ n && n ≤ 0xFDEF) || 0xFFFE ≤ n % 0x10000

/-- The character of an octet in the range of control characters. -/
def controlCharacter (n : Nat) : Char :=
  match (Charset.ofName? "cp1252").map (Charset.pieces · [UInt8.ofNat n]) with
  | some [.char c] => c
  | _ => Char.ofNat n

/-- The text of a numeric reference. -/
def numbered (n : Nat) : List Char :=
  if n == 0 then [replacement]
  else if n == 0xD then ['\r']
  else if 0x80 ≤ n && n ≤ 0x9F then [controlCharacter n]
  else if (0xD800 ≤ n && n ≤ 0xDFFF) || 0x10FFFF < n then [replacement]
  else if isNoncharacter n then []
  else [Char.ofNat n]

/-! ## §3. References. -/

/-- A character that can stand in a name. -/
def isReferenceChar (c : Char) : Bool := !("\t\n\x0c <&#;".toList.contains c)

/-- The characters up to and including a semicolon that follows `run`. -/
def withSemicolon (run : List Char) (rest : List Char) : List Char :=
  match rest.drop run.length with
  | ';' :: _ => run ++ [';']
  | _ => run

/-- The value of a reference: its text and the number of characters behind the
ampersand that it takes; a number may have too many digits to be read. -/
inductive Reference where
  | none
  | text (cs : List Char) (taken : Nat)
  | tooLong

/-- Reads a reference behind its ampersand. -/
def referenceAt (cs : List Char) : Reference :=
  match cs with
  | '#' :: x :: rest =>
    if (x == 'x' || x == 'X') && (rest.head?.bind hexDigit?).isSome then
      let digits := rest.takeWhile fun c => (hexDigit? c).isSome
      .text (numbered (hexNumber digits)) ((withSemicolon digits rest).length + 2)
    else
      let digits := (x :: rest).takeWhile isDigit
      if digits.isEmpty then .none
      else if Number.maxDigits < digits.length then .tooLong
      else .text (numbered (ofDigits (digits.map fun d => d.toNat - 48)))
        ((withSemicolon digits (x :: rest)).length + 1)
  | _ =>
    let run := (cs.takeWhile isReferenceChar).take 32
    if run.isEmpty then .none
    else
      let written := withSemicolon run cs
      match named? written with
      | some text => .text text.toList written.length
      | none =>
        match longestNamed? written (written.length - 1) with
        | some (text, n) => .text text.toList n
        | none => .none

/-- The text with its references read, the first `skip` characters being part of
one already read; nothing if a number has too many digits. -/
def resolveFrom? : Nat → List Char → Option (List Char)
  | _, [] => some []
  | skip + 1, _ :: cs => resolveFrom? skip cs
  | 0, c :: cs =>
    if c == '&' then
      match referenceAt cs with
      | .none => (resolveFrom? 0 cs).map (c :: ·)
      | .text t n => (resolveFrom? n cs).map (t ++ ·)
      | .tooLong => none
    else (resolveFrom? 0 cs).map (c :: ·)

/-- The text with its character references read. -/
def resolveReferences? (cs : List Char) : Option (List Char) := resolveFrom? 0 cs

end Mailroom.Text
