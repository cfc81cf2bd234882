import Mailroom.Mime.Glyph
import Mailroom.Text.Charset
import Mailroom.Text.Base64
import Mailroom.Text.QuotedPrintable
/-!
  Mailroom.Mime.EncodedWord
  ────────────────────────────────
  **ENCODED WORDS, AND UNSTRUCTURED TEXT WITH ENCODED WORDS IN IT.**

      =?charset*language?q?text?=      =?charset?b?text?=

  An unknown character set is read as ASCII, octets that cannot be read stay
  octets.  White space between two encoded words is left out.
-/
namespace Mailroom.Mime

open Mailroom.Text

/-! ## §1. One word. -/

/-- What stands at a place where an encoded word may start. -/
inductive WordAt where
  /-- A word, its text and what follows it. -/
  | word (text : Glyphs) (rest : Glyphs)
  /-- Something of the form of a word that cannot be read. -/
  | invalid
  /-- Nothing of that form. -/
  | other
  deriving Repr

/-- The octets of an encoded text; nothing if it holds characters outside
ASCII. -/
def encodedOctets? (gs : Glyphs) : Option (List UInt8) :=
  gs.mapM fun
    | .char c => if c.toNat < 128 then some (UInt8.ofNat c.toNat) else none
    | .octet b => some b

/-- The text of octets in a named character set; nothing if octets of ASCII are
among those that cannot be read. -/
def inCharset? (name : String) (bs : List UInt8) : Option Glyphs :=
  match Charset.ofName? name with
  | none => some (glyphsOf bs)
  | some charset =>
    ((charset.pieces bs).mapM fun
      | Charset.Piece.char c => some [Glyph.char c]
      | Charset.Piece.bad os => if os.all (128 ≤ ·) then some (os.map Glyph.octet) else none).map List.flatten

/-- The text of a word from its three parts. -/
def wordText? (charset encoding text : Glyphs) : Option Glyphs :=
  let name := shown (charset.takeWhile (!·.is '*'))
  match encodedOctets? text, encoding with
  | some bs, [e] =>
    if name.toList.contains (Char.ofNat 0) then none
    else if e.oneOf ['q', 'Q'] then inCharset? name (QuotedPrintable.decodeWord bs)
    else if e.oneOf ['b', 'B'] then inCharset? name (Base64.decode bs)
    else none
  | _, _ => none

/-- A hexadecimal digit. -/
def isHexDigit (g : Glyph) : Bool := g.sat fun c => (hexDigit? c).isSome

/-- Reads behind the `=?` that may start a word.  A `?=` before two hexadecimal
digits is taken for part of the text as long as the text has not begun. -/
def wordBehind (gs : Glyphs) : WordAt :=
  match splitAtMark? ['?', '='] gs with
  | none => .other
  | some (inner, rest) =>
    let (inner, rest) := match rest with
      | a :: b :: _ =>
        if isHexDigit a && isHexDigit b && (inner.filter (Glyph.is '?')).length < 2 then
          match splitAtMark? ['?', '='] rest with
          | some (more, rest) => (inner ++ glyphs "?=" ++ more, rest)
          | none => (inner ++ glyphs "?=" ++ rest, [])
        else (inner, rest)
      | _ => (inner, rest)
    match splitOn (Glyph.is '?') inner with
    | [charset, encoding, text] =>
      match wordText? charset encoding text with
      | some t => .word t rest
      | none => .invalid
    | _ => .invalid

/-- Reads an encoded word at the start of a text. -/
def wordAt (gs : Glyphs) : WordAt :=
  match gs with
  | a :: b :: rest => if a.is '=' && b.is '?' then wordBehind rest else .other
  | _ => .other

/-! ## §2. Unstructured text. -/

/-- Whether a text that starts behind `=?` goes on like an encoded word. -/
def looksLikeWordBehind (gs : Glyphs) : Bool :=
  match gs.dropWhile (!·.is '?') with
  | _ :: e :: q :: rest =>
    e.oneOf ['q', 'Q', 'b', 'B'] && q.is '?' && (splitAtMark? ['?', '='] rest).isSome
  | _ => false

/-- Whether the form of an encoded word occurs in a text. -/
def hasWord : Glyphs → Bool
  | [] => false
  | g :: gs =>
    (match gs with
      | h :: rest => g.is '=' && h.is '?' && looksLikeWordBehind rest
      | [] => false) || hasWord gs

/-- The text of an unstructured header from a place in it; `afterWord` says
whether an encoded word precedes.  Each step takes at least one element, `fuel`
bounds the steps. -/
def unstructuredFrom : Nat → Bool → Glyphs → Glyphs
  | 0, _, gs => gs
  | fuel + 1, afterWord, gs =>
    match gs with
    | [] => []
    | g :: _ =>
      if g.isWsp then
        let (blanks, rest) := takeBlanks gs
        match wordAt rest with
        | .word text rest' =>
          (if afterWord then [] else blanks) ++ text ++ unstructuredFrom fuel true rest'
        | _ => blanks ++ unstructuredFrom fuel false rest
      else
        match wordAt gs with
        | .word text rest => text ++ unstructuredFrom fuel true rest
        | at_ =>
          let run := gs.takeWhile (!·.isWsp)
          match at_, splitAtMark? ['=', '?'] run with
          | .invalid, _ => run ++ unstructuredFrom fuel false (gs.drop run.length)
          | _, some (before, _) =>
            if hasWord run then before ++ unstructuredFrom fuel false (gs.drop before.length)
            else run ++ unstructuredFrom fuel false (gs.drop run.length)
          | _, none => run ++ unstructuredFrom fuel false (gs.drop run.length)

/-- The text of an unstructured header. -/
def unstructured (gs : Glyphs) : Glyphs := unstructuredFrom (gs.length + 1) false gs

end Mailroom.Mime
