import Mailroom.Text.CharsetTable
import Mailroom.Text.Utf8
import Mailroom.Text.Case
import Mailroom.Text.Blank
/-!
  Mailroom.Text.Charset
  ────────────────────────────────
  **TEXT IN A NAMED CHARACTER SET.**

  A set reads octets as a sequence of pieces: characters, and runs of octets
  that it cannot read.  A reader replaces such a run by U+FFFD or keeps its
  octets.  Names of sets are compared by their letters, digits and dots alone,
  in lower case.
-/
namespace Mailroom.Text

/-! ## §1. Names. -/

/-- A character that counts in the name of a set. -/
def isNameChar (c : Char) : Bool :=
  let n := c.toNat
  (48 ≤ n && n ≤ 57) || (65 ≤ n && n ≤ 90) || (97 ≤ n && n ≤ 122) || n == 46

/-- A name in its compared form: the runs of counting characters in lower case,
underscores between them. -/
def charsetKey (name : String) : String :=
  "_".intercalate ((splitRuns (!isNameChar ·) name.toList).map fun run =>
    String.ofList (run.map lowerAscii))

/-! ## §2. Sets. -/

/-- A character set. -/
inductive Charset where
  | ascii
  | latin1
  | utf8
  /-- UTF-8 behind an optional byte order mark. -/
  | markedUtf8
  /-- UTF-16 in the order of its byte order mark, low octet first without one. -/
  | markedUtf16
  | utf16 (bigEndian : Bool)
  /-- UTF-32 in the order of its byte order mark, low octet first without one. -/
  | markedUtf32
  | utf32 (bigEndian : Bool)
  /-- One octet per character, with the characters of the octets from 128. -/
  | table (upper : Array (Option Char))

namespace Charset

/-- The names of the sets that have no table. -/
def wellKnown : List (Charset × List String) :=
  [(ascii, ["ascii", "646", "ansi_x3.4_1968", "ansi_x3.4_1986", "ansi_x3_4_1968", "ansi_x3_4_1986",
      "cp367", "csascii", "ibm367", "iso646_us", "iso_646.irv_1991", "iso_646_irv_1991",
      "iso_ir_6", "us", "us_ascii"]),
   (latin1, ["latin_1", "8859", "cp819", "csisolatin1", "ibm819", "iso8859", "iso8859_1",
      "iso_8859_1", "iso_8859_1_1987", "iso_ir_100", "l1", "latin", "latin1"]),
   (utf8, ["utf_8", "cp65001", "u8", "utf", "utf8", "utf8_ucs2", "utf8_ucs4"]),
   (markedUtf8, ["utf_8_sig"]),
   (markedUtf16, ["utf_16", "u16", "utf16"]),
   (utf16 false, ["utf_16_le", "unicodelittleunmarked", "utf_16le"]),
   (utf16 true, ["utf_16_be", "unicodebigunmarked", "utf_16be"]),
   (markedUtf32, ["utf_32", "u32", "utf32"]),
   (utf32 false, ["utf_32_le", "utf_32le"]),
   (utf32 true, ["utf_32_be", "utf_32be"])]

/-- The set with a name. -/
def ofName? (name : String) : Option Charset :=
  let key := charsetKey name
  match wellKnown.find? fun (_, names) => names.contains key with
  | some (charset, _) => some charset
  | none => (upperHalf? key).map table

/-! ## §3. Reading. -/

/-- What is read: a character, or octets that cannot be read. -/
inductive Piece where
  | char (c : Char)
  | bad (octets : List UInt8)
  deriving Repr, DecidableEq

/-- UTF-8, of which the first `skip` octets have been read. -/
def utf8Pieces : Nat → List UInt8 → List Piece
  | _, [] => []
  | skip + 1, _ :: r => utf8Pieces skip r
  | 0, a :: r =>
    match sequenceAt a r with
    | (n, some c) => .char c :: utf8Pieces n r
    | (n, none) => .bad (a :: r.take n) :: utf8Pieces n r

/-- Groups of `size` octets, and the octets left over; `open_` holds the octets
of the current group, last first. -/
def groupsOf (size : Nat) (open_ : List UInt8) : List UInt8 → List (List UInt8) × List UInt8
  | [] => ([], open_.reverse)
  | b :: bs =>
    if open_.length + 1 == size then
      let (groups, rest) := groupsOf size [] bs
      ((b :: open_).reverse :: groups, rest)
    else groupsOf size (b :: open_) bs

/-- The number that octets write, the high one first if `bigEndian`. -/
def unit (bigEndian : Bool) (bs : List UInt8) : Nat :=
  (if bigEndian then bs else bs.reverse).foldl (fun n b => 256 * n + b.toNat) 0

/-- UTF-16 units, the first of which has been read if `skip`; `rest` are the
octets behind the last unit. -/
def utf16Pieces (bigEndian : Bool) (rest : List UInt8) : Bool → List (List UInt8) → List Piece
  | _, [] => if rest.isEmpty then [] else [.bad rest]
  | true, _ :: us => utf16Pieces bigEndian rest false us
  | false, u :: us =>
    let n := unit bigEndian u
    if 0xD800 ≤ n && n < 0xDC00 then
      match us with
      | [] => [.bad (u ++ rest)]
      | v :: _ =>
        let m := unit bigEndian v
        if 0xDC00 ≤ m && m < 0xE000 then
          .char (Char.ofNat (0x10000 + (n - 0xD800) * 0x400 + (m - 0xDC00)))
            :: utf16Pieces bigEndian rest true us
        else .bad u :: utf16Pieces bigEndian rest false us
    else if 0xDC00 ≤ n && n < 0xE000 then .bad u :: utf16Pieces bigEndian rest false us
    else .char (Char.ofNat n) :: utf16Pieces bigEndian rest false us

/-- UTF-16 octets. -/
def readUtf16 (bigEndian : Bool) (bs : List UInt8) : List Piece :=
  let (units, rest) := groupsOf 2 [] bs
  utf16Pieces bigEndian rest false units

/-- UTF-32 octets. -/
def readUtf32 (bigEndian : Bool) (bs : List UInt8) : List Piece :=
  let (units, rest) := groupsOf 4 [] bs
  units.map (fun u =>
    let n := unit bigEndian u
    if n.isValidChar then .char (Char.ofNat n) else .bad u)
  ++ (if rest.isEmpty then [] else [.bad rest])

/-- One octet of a set with a table. -/
def tablePiece (upper : Array (Option Char)) (b : UInt8) : Piece :=
  if b < 128 then .char (Char.ofNat b.toNat)
  else match upper[b.toNat - 128]? with
    | some (some c) => .char c
    | _ => .bad [b]

/-- The octets in a character set, read. -/
def pieces (charset : Charset) (bs : List UInt8) : List Piece :=
  match charset with
  | ascii => bs.map fun b => if b < 128 then .char (Char.ofNat b.toNat) else .bad [b]
  | latin1 => bs.map fun b => .char (Char.ofNat b.toNat)
  | utf8 => utf8Pieces 0 bs
  | markedUtf8 =>
    utf8Pieces 0 (match bs with | 0xEF :: 0xBB :: 0xBF :: r => r | _ => bs)
  | markedUtf16 =>
    match bs with
    | 0xFF :: 0xFE :: r => readUtf16 false r
    | 0xFE :: 0xFF :: r => readUtf16 true r
    | _ => readUtf16 false bs
  | utf16 bigEndian => readUtf16 bigEndian bs
  | markedUtf32 =>
    match bs with
    | 0xFF :: 0xFE :: 0 :: 0 :: r => readUtf32 false r
    | 0 :: 0 :: 0xFE :: 0xFF :: r => readUtf32 true r
    | _ => readUtf32 false bs
  | utf32 bigEndian => readUtf32 bigEndian bs
  | table upper => bs.map (tablePiece upper)

/-- The text of octets; what cannot be read is U+FFFD. -/
def text (charset : Charset) (bs : List UInt8) : String :=
  String.ofList ((charset.pieces bs).map fun
    | .char c => c
    | .bad _ => replacement)

end Charset

end Mailroom.Text
