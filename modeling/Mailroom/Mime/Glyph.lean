import Mailroom.Text.Blank
import Mailroom.Text.Utf8
/-!
  Mailroom.Mime.Glyph
  ────────────────────────────────
  **THE ELEMENTS OF A HEADER.**

  A header is ASCII on the wire, and encoded words bring in any character.  An
  octet outside ASCII that no character set explains is kept as it is; when the
  header is shown, such octets are read as UTF-8.
-/
namespace Mailroom.Mime

open Mailroom.Text

/-! ## §1. Elements. -/

/-- A character, or an octet that no character set explains. -/
inductive Glyph where
  | char (c : Char)
  | octet (b : UInt8)
  deriving Repr, DecidableEq

/-- A text of a header. -/
abbrev Glyphs := List Glyph

namespace Glyph

/-- An octet of a header as it stands. -/
def ofOctet (b : UInt8) : Glyph := if b < 128 then char (Char.ofNat b.toNat) else octet b

/-- The octets of an element. -/
def octets : Glyph → List UInt8
  | char c => String.utf8EncodeChar c
  | octet b => [b]

/-- Whether an element is a character that satisfies `p`. -/
def sat (p : Char → Bool) : Glyph → Bool
  | char c => p c
  | octet _ => false

/-- Whether an element is a given character. -/
def is (c : Char) (g : Glyph) : Bool := g.sat (· == c)

/-- Whether an element is one of some characters. -/
def oneOf (cs : List Char) (g : Glyph) : Bool := g.sat cs.contains

/-- A space or a tab. -/
def isWsp (g : Glyph) : Bool := g.is ' ' || g.is '\t'

/-- An element that is trimmed from the ends of a text. -/
def isTrim (g : Glyph) : Bool := g.sat isTrimmed

end Glyph

/-! ## §2. Texts. -/

/-- Octets as a text of a header. -/
def glyphsOf (bs : List UInt8) : Glyphs := bs.map Glyph.ofOctet

/-- Characters as a text of a header. -/
def glyphs (s : String) : Glyphs := s.toList.map .char

/-- A text of a header as it is shown. -/
def shown (gs : Glyphs) : String := decode (gs.flatMap Glyph.octets)

/-- A text between double quotes, with a backslash before quotes and
backslashes. -/
def inQuotes (gs : Glyphs) : Glyphs :=
  .char '"' :: gs.flatMap (fun g => if g.is '\\' || g.is '"' then [.char '\\', g] else [g])
    ++ [.char '"']

/-- The leading white space of a text, and the rest. -/
def takeBlanks (gs : Glyphs) : Glyphs × Glyphs :=
  (gs.takeWhile Glyph.isTrim, gs.dropWhile Glyph.isTrim)

/-- A text whose white space, where it starts with a space or a tab, is one
space. -/
def collapse : Bool → Glyphs → Glyphs
  | _, [] => []
  | inBlank, g :: gs =>
    if inBlank && g.isTrim then collapse true gs
    else if g.isWsp then .char ' ' :: collapse true gs
    else g :: collapse false gs

/-- Splits a text at the first place where `mark` stands: what is before it and
what is behind. -/
def splitAtMark? (mark : List Char) : Glyphs → Option (Glyphs × Glyphs)
  | [] => none
  | g :: gs =>
    match dropPrefix? (mark.map Glyph.char) (g :: gs) with
    | some rest => some ([], rest)
    | none => (splitAtMark? mark gs).map fun (before, rest) => (g :: before, rest)

end Mailroom.Mime
