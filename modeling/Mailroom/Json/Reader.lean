import Mailroom.Json.Basic
import Mailroom.Text.DecimalDigit
/-!
  Mailroom.Json.Reader
  ────────────────────────────────
  **READING JSON TEXT.**

  A number without fraction and exponent is an integer, any other a decimal
  rounded to binary64; `NaN` and the infinities are read as well.  A surrogate
  without its partner reads as U+FFFD.
-/
namespace Mailroom.Json

open Mailroom.Number Mailroom.Text

/-! ## §1. White space and texts. -/

/-- JSON white space. -/
def isSpace (c : Char) : Bool := c == ' ' || c == '\t' || c == '\n' || c == '\r'

/-- The text without leading white space. -/
def skipSpace (cs : List Char) : List Char := cs.dropWhile isSpace

/-- The number written by four hexadecimal digits. -/
def hex4? : List Char → Option (Nat × List Char)
  | a :: b :: c :: d :: rest =>
    match hexDigit? a, hexDigit? b, hexDigit? c, hexDigit? d with
    | some a, some b, some c, some d => some (((a * 16 + b) * 16 + c) * 16 + d, rest)
    | _, _, _, _ => none
  | _ => none

/-- The character of a code point; U+FFFD for a surrogate. -/
def scalar (n : Nat) : Char :=
  if 0xD800 ≤ n && n < 0xE000 then Char.ofNat 0xFFFD else Char.ofNat n

/-- The character written by one letter after a backslash. -/
def escaped? (c : Char) : Option Char :=
  match c with
  | '"' => some '"'
  | '\\' => some '\\'
  | '/' => some '/'
  | 'b' => some (Char.ofNat 8)
  | 'f' => some (Char.ofNat 12)
  | 'n' => some '\n'
  | 'r' => some '\r'
  | 't' => some '\t'
  | _ => none

/-- Reads the characters of a text up to its closing quote; `acc` holds those
before it, last first. -/
def readText : Nat → List Char → List Char → Option (List Char × List Char)
  | 0, _, _ => none
  | fuel + 1, acc, cs =>
    match cs with
    | [] => none
    | '"' :: rest => some (acc.reverse, rest)
    | '\\' :: 'u' :: rest =>
      match hex4? rest with
      | none => none
      | some (hi, rest) =>
        if 0xD800 ≤ hi && hi < 0xDC00 then
          match rest with
          | '\\' :: 'u' :: rest' =>
            match hex4? rest' with
            | some (lo, rest'') =>
              if 0xDC00 ≤ lo && lo < 0xE000 then
                readText fuel
                  (Char.ofNat (0x10000 + (hi - 0xD800) * 0x400 + (lo - 0xDC00)) :: acc) rest''
              else readText fuel (scalar hi :: acc) rest
            | none => none
          | _ => readText fuel (scalar hi :: acc) rest
        else readText fuel (scalar hi :: acc) rest
    | '\\' :: c :: rest =>
      match escaped? c with
      | some e => readText fuel (e :: acc) rest
      | none => none
    | c :: rest => readText fuel (c :: acc) rest

/-! ## §2. Numbers. -/

/-- Reads a number. -/
def readNumber (cs : List Char) : Option (Json × List Char) :=
  let (negative, body) := match cs with
    | '-' :: r => (true, r)
    | r => (false, r)
  let whole := body.takeWhile isDigit
  let rest := body.dropWhile isDigit
  let (fraction, rest) := match rest with
    | '.' :: r => if (r.takeWhile isDigit).isEmpty then ([], rest)
        else (r.takeWhile isDigit, r.dropWhile isDigit)
    | _ => ([], rest)
  let (exponent, rest) := exponentOf rest
  let number (ds : List Char) : Nat := ofDigits (ds.map fun d => d.toNat - 48)
  if whole.isEmpty then none
  else if fraction.isEmpty && exponent.isNone then
    let n : Int := number whole
    some (.int (if negative then -n else n), rest)
  else
    some (.float (Binary64.ofDecimal negative (number (whole ++ fraction))
      (exponent.getD 0 - fraction.length)), rest)
where
  /-- The exponent part of a number, if there is one, and the rest. -/
  exponentOf (cs : List Char) : Option Int × List Char :=
    match cs with
    | c :: r =>
      if c == 'e' || c == 'E' then
        let (negative, ds) := match r with
          | '-' :: r => (true, r)
          | '+' :: r => (false, r)
          | r => (false, r)
        let digits := ds.takeWhile isDigit
        if digits.isEmpty then (none, cs)
        else
          let n : Int := ofDigits (digits.map fun d => d.toNat - 48)
          (some (if negative then -n else n), ds.dropWhile isDigit)
      else (none, cs)
    | [] => (none, cs)

/-! ## §3. Values. -/

mutual

/-- Reads a value at the start of a text. -/
def readValue : Nat → List Char → Option (Json × List Char)
  | 0, _ => none
  | fuel + 1, cs =>
    match skipSpace cs with
    | 'n' :: 'u' :: 'l' :: 'l' :: r => some (.null, r)
    | 't' :: 'r' :: 'u' :: 'e' :: r => some (.bool true, r)
    | 'f' :: 'a' :: 'l' :: 's' :: 'e' :: r => some (.bool false, r)
    | 'N' :: 'a' :: 'N' :: r => some (.float .nan, r)
    | 'I' :: 'n' :: 'f' :: 'i' :: 'n' :: 'i' :: 't' :: 'y' :: r => some (.float (.infinite false), r)
    | '-' :: 'I' :: 'n' :: 'f' :: 'i' :: 'n' :: 'i' :: 't' :: 'y' :: r =>
      some (.float (.infinite true), r)
    | '"' :: r => (readText (r.length + 1) [] r).map fun (s, r) => (.text (String.ofList s), r)
    | '[' :: r =>
      match skipSpace r with
      | ']' :: r => some (.list [], r)
      | r => (readItems fuel [] r).map fun (vs, r) => (.list vs, r)
    | '\x7b' :: r =>
      match skipSpace r with
      | '\x7d' :: r => some (.object [], r)
      | r => (readFields fuel [] r).map fun (fs, r) => (ofFields fs, r)
    | r => readNumber r

/-- Reads list items up to the closing bracket. -/
def readItems : Nat → List Json → List Char → Option (List Json × List Char)
  | 0, _, _ => none
  | fuel + 1, acc, cs =>
    match readValue fuel cs with
    | none => none
    | some (v, r) =>
      match skipSpace r with
      | ',' :: r => readItems fuel (v :: acc) r
      | ']' :: r => some ((v :: acc).reverse, r)
      | _ => none

/-- Reads object fields up to the closing brace. -/
def readFields : Nat → List (String × Json) → List Char → Option (List (String × Json) × List Char)
  | 0, _, _ => none
  | fuel + 1, acc, cs =>
    match skipSpace cs with
    | '"' :: r =>
      match readText (r.length + 1) [] r with
      | none => none
      | some (k, r) =>
        match skipSpace r with
        | ':' :: r =>
          match readValue fuel r with
          | none => none
          | some (v, r) =>
            match skipSpace r with
            | ',' :: r => readFields fuel ((String.ofList k, v) :: acc) r
            | '\x7d' :: r => some (((String.ofList k, v) :: acc).reverse, r)
            | _ => none
        | _ => none
    | _ => none

end

/-- Reads a text that holds one JSON value. -/
def ofText? (s : String) : Option Json :=
  let cs := s.toList
  match readValue (cs.length + 1) cs with
  | some (v, rest) => if (skipSpace rest).isEmpty then some v else none
  | none => none

end Mailroom.Json
