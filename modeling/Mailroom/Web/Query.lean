import Mailroom.Text.QuotedPrintable
import Mailroom.Text.Blank
import Mailroom.Text.Utf8
/-!
  Mailroom.Web.Query
  ────────────────────────────────
  **QUERY STRINGS.**

  A query is a list of fields `name=value` between ampersands.  A plus sign is a
  space, a percent sign before two hexadecimal digits is an octet, and octets are
  read as UTF-8.  Fields that are empty are left out, values may be empty.
-/
namespace Mailroom.Web

open Mailroom.Text

/-- The octets of ASCII text with its percent signs resolved; the first `skip`
characters have been read. -/
def percentDecoded : Nat → List UInt8 → List UInt8
  | _, [] => []
  | skip + 1, _ :: bs => percentDecoded skip bs
  | 0, b :: bs =>
    if b == 37 then
      match bs with
      | c :: d :: _ =>
        match QuotedPrintable.pair? c d with
        | some o => o :: percentDecoded 2 bs
        | none => b :: percentDecoded 0 bs
      | _ => b :: percentDecoded 0 bs
    else b :: percentDecoded 0 bs

/-- Whether a character is ASCII. -/
def isAscii (c : Char) : Bool := c.toNat < 128

/-- Takes a text apart into runs of ASCII and runs of other characters. -/
def asciiRuns : List Char → List (Bool × List Char)
  | [] => []
  | c :: cs =>
    match asciiRuns cs with
    | (ascii, run) :: runs =>
      if ascii == isAscii c then (ascii, c :: run) :: runs else (isAscii c, [c]) :: (ascii, run) :: runs
    | [] => [(isAscii c, [c])]

/-- The text that a name or a value in a query stands for. -/
def unescaped (cs : List Char) : String :=
  let spaced := cs.map fun c => if c == '+' then ' ' else c
  String.ofList ((asciiRuns spaced).flatMap fun (ascii, run) =>
    if ascii then decodeChars (percentDecoded 0 (run.map fun c => UInt8.ofNat c.toNat)) else run)

/-- The name and the value of a field. -/
def fieldOf (cs : List Char) : String × String :=
  (unescaped (cs.takeWhile (· != '=')), unescaped ((cs.dropWhile (· != '=')).drop 1))

/-- The fields of a query. -/
def fieldsOf (query : String) : List (String × String) :=
  ((splitOn (· == '&') query.toList).filter (!·.isEmpty)).map fieldOf

/-- The last value of a field. -/
def lastValue? (query name : String) : Option String :=
  ((fieldsOf query).reverse.find? (·.1 == name)).map (·.2)

end Mailroom.Web
