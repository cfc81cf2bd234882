import Mailroom.Mime.EncodedWord
/-!
  Mailroom.Mime.Phrase
  ────────────────────────────────
  **COMMENTS, ATOMS, QUOTED STRINGS AND PHRASES.**

  The structured headers are made of tokens.  A token has a written form, from
  which it can be read again, and a meaning, where comments and white space
  count as one space, quotes are gone and encoded words are decoded.  Readers
  are forgiving; a text that leads one into a dead end stops it with a fault.
-/
namespace Mailroom.Mime

open Mailroom.Text

/-! ## §1. Faults. -/

/-- A header that cannot be read. -/
inductive HeaderFault where
  /-- The text ends where an element must follow. -/
  | endOfText
  /-- A word without content where content is needed. -/
  | emptyWord
  /-- A display name that starts or ends with a full stop. -/
  | loneDot
  /-- A comment before a full stop that starts a display name. -/
  | commentBeforeDot
  /-- A domain literal that is not closed. -/
  | unclosedLiteral
  /-- A domain literal that ends in white space. -/
  | blankLiteral
  /-- Text behind an address group. -/
  | textAfterGroup
  /-- A line break inside an address. -/
  | lineBreak
  /-- A date whose numbers are too large. -/
  | numberTooLarge (reason : String)
  /-- A compound of related parts that has no parts. -/
  | noParts
  deriving Repr, DecidableEq

/-- The message for a header fault. -/
def HeaderFault.message : HeaderFault → String
  | endOfText => "string index out of range"
  | emptyWord => "list index out of range"
  | loneDot => "'str' object has no attribute 'token_type'"
  | commentBeforeDot => "'ValueTerminal' object does not support item assignment"
  | unclosedLiteral => "'InvalidHeaderDefect' object has no attribute 'all_defects'"
  | blankLiteral =>
    "cannot access local variable 'pos' where it is not associated with a value"
  | textAfterGroup => "'Group' object has no attribute 'local_part'"
  | lineBreak => "invalid arguments; address parts cannot contain CR or LF"
  | numberTooLarge reason => reason
  | noParts => "'str' object has no attribute 'is_attachment'"

/-- Why a reader stops: another form has to be tried, or the header cannot be
read at all. -/
inductive Stop where
  | mismatch
  | fault (f : HeaderFault)
  deriving Repr, DecidableEq

/-- A reader takes something off the front of a text. -/
abbrev Reader (α : Type) := Glyphs → Except Stop (α × Glyphs)

/-- Tries one reader and, if its form does not fit, another. -/
def orElse {α : Type} (first second : Reader α) : Reader α := fun gs =>
  match first gs with
  | .error .mismatch => second gs
  | r => r

/-! ## §2. Classes. -/

/-- The special characters of addresses. -/
def specials : List Char := "()<>@,:;.\\\"[]".toList

/-- The characters that end an atom. -/
def endsAtom (g : Glyph) : Bool := g.oneOf specials || g.isWsp

/-- The characters that end a phrase. -/
def endsPhrase (g : Glyph) : Bool := g.oneOf ")<>@,:;\\[]".toList

/-- The characters that start a comment or white space. -/
def startsCfws (g : Glyph) : Bool := g.isWsp || g.is '('

/-! ## §3. Tokens. -/

/-- A token of a structured header. -/
inductive Token where
  | text (content : Glyphs)
  | dot
  /-- Comments and white space. -/
  | cfws (written : Glyphs)
  /-- An encoded word with its decoded text. -/
  | encoded (content : Glyphs)
  /-- A quoted string without what surrounds its quotes; `filled` unless nothing
  was read behind the opening quote. -/
  | bare (content : Glyphs) (filled : Bool)
  | node (parts : List Token)
  deriving Repr

namespace Token

mutual

/-- The written form of a token. -/
def written : Token → Glyphs
  | text s => s
  | dot => [.char '.']
  | cfws s => s
  | encoded s => s
  | bare s _ => inQuotes s
  | node parts => writtenAll parts

/-- The written form of a list of tokens. -/
def writtenAll : List Token → Glyphs
  | [] => []
  | t :: ts => written t ++ writtenAll ts

end

mutual

/-- The meaning of a token. -/
def meaning : Token → Glyphs
  | text s => s
  | dot => [.char '.']
  | cfws _ => [.char ' ']
  | encoded s => collapse false s
  | bare s _ => s
  | node parts => meaningAll parts

/-- The meaning of a list of tokens. -/
def meaningAll : List Token → Glyphs
  | [] => []
  | t :: ts => meaning t ++ meaningAll ts

end

/-- Whether a token is comments and white space. -/
def isCfws : Token → Bool
  | cfws _ => true
  | _ => false

/-- A token with comments and white space put in front of its parts. -/
def withLeader (leader : Option Glyphs) : Token → Token
  | node parts =>
    match leader with
    | some w => node (cfws w :: parts)
    | none => node parts
  | t => t

end Token

/-! ## §4. Comments and white space. -/

/-- The quoted text up to an unescaped element of `ends`, `escaped` if a
backslash precedes, and the rest. -/
def ptextFrom (ends : List Char) (escaped : Bool) : Glyphs → Glyphs × Glyphs
  | [] => ([], [])
  | g :: gs =>
    if !escaped && g.is '\\' then ptextFrom ends true gs
    else if !escaped && g.oneOf ends then ([], g :: gs)
    else
      let (taken, rest) := ptextFrom ends false gs
      (g :: taken, rest)

/-- The quoted text up to white space or an unescaped element of `ends`. -/
def ptext (ends : List Char) (gs : Glyphs) : Glyphs × Glyphs :=
  let run := gs.takeWhile (!·.isWsp)
  let (taken, rest) := ptextFrom ends false run
  (taken, rest ++ gs.drop run.length)

/-- Text inside a comment in its written form. -/
def inComment (gs : Glyphs) : Glyphs :=
  gs.flatMap fun g => if g.oneOf ['\\', '(', ')'] then [.char '\\', g] else [g]

/-- What is inside a comment, in its written form, and what is behind it; a
comment that is not closed ends with the text. -/
def commentFrom : Nat → Glyphs → Glyphs × Glyphs
  | 0, gs => ([], gs)
  | fuel + 1, gs =>
    match gs with
    | [] => ([], [])
    | g :: r =>
      if g.is ')' then ([], r)
      else
        let (part, rest) :=
          if g.isWsp then takeBlanks gs
          else if g.is '(' then
            let (inner, rest) := commentFrom fuel r
            (glyphs "(" ++ inner ++ glyphs ")", rest)
          else
            let (taken, rest) := ptext ['(', ')'] gs
            (inComment taken, rest)
        let (more, rest) := commentFrom fuel rest
        (part ++ more, rest)

/-- Comments and white space in their written form, and the rest. -/
def cfwsFrom : Nat → Glyphs → Glyphs × Glyphs
  | 0, gs => ([], gs)
  | fuel + 1, gs =>
    match gs with
    | [] => ([], [])
    | g :: r =>
      if g.isWsp then
        let (blanks, rest) := takeBlanks gs
        let (more, rest) := cfwsFrom fuel rest
        (blanks ++ more, rest)
      else if g.is '(' then
        let (inner, rest) := commentFrom (r.length + 1) r
        let (more, rest) := cfwsFrom fuel rest
        (glyphs "(" ++ inner ++ glyphs ")" ++ more, rest)
      else ([], gs)

/-- Comments and white space at the front of a text, if there are any. -/
def takeCfws (gs : Glyphs) : Option Glyphs × Glyphs :=
  match gs with
  | g :: _ =>
    if startsCfws g then
      let (written, rest) := cfwsFrom (gs.length + 1) gs
      (some written, rest)
    else (none, gs)
  | [] => (none, [])

/-- The token of comments and white space that may be there. -/
def cfwsToken (written : Option Glyphs) : List Token := (written.map Token.cfws).toList

/-! ## §5. Words. -/

/-- A piece of a quoted string. -/
inductive QuotedPiece where
  | plain (content : Glyphs)
  | blanks (content : Glyphs)
  | encoded (content : Glyphs)

/-- The content of a piece. -/
def QuotedPiece.content : QuotedPiece → Glyphs
  | plain s => s
  | blanks s => s
  | encoded s => s

/-- Puts an encoded word behind the pieces `done`, last first; white space
between two encoded words is left out. -/
def pushEncoded (word : Glyphs) : List QuotedPiece → List QuotedPiece
  | .blanks _ :: .encoded a :: done => .encoded word :: .blanks [] :: .encoded a :: done
  | done => .encoded word :: done

/-- The pieces of a quoted string up to its closing quote, and what is behind
it. -/
def quotedFrom : Nat → List QuotedPiece → Glyphs → List QuotedPiece × Glyphs
  | 0, done, gs => (done.reverse, gs)
  | fuel + 1, done, gs =>
    match gs with
    | [] => (done.reverse, [])
    | g :: r =>
      if g.is '"' then (done.reverse, r)
      else if g.isWsp then
        let (blanks, rest) := takeBlanks gs
        quotedFrom fuel (.blanks blanks :: done) rest
      else
        match wordAt gs with
        | .word text rest => quotedFrom fuel (pushEncoded text done) rest
        | _ =>
          let (taken, rest) := ptext ['"'] gs
          quotedFrom fuel (.plain taken :: done) rest

/-- Reads a quoted string behind its opening quote. -/
def bareBehind (gs : Glyphs) : Token × Glyphs :=
  let (pieces, rest) := quotedFrom (gs.length + 1) [] gs
  let closedAtOnce := match gs with
    | g :: _ => g.is '"'
    | [] => false
  (.bare (pieces.flatMap (·.content)) (closedAtOnce || !pieces.isEmpty), rest)

/-- Reads a run of characters that do not end an atom. -/
def atext : Reader Token := fun gs =>
  let run := gs.takeWhile (!endsAtom ·)
  if run.isEmpty then .error .mismatch else .ok (.text run, gs.drop run.length)

/-- Reads an encoded word, or else with `other`. -/
def encodedOr (other : Reader Token) : Reader Token := fun gs =>
  match wordAt gs with
  | .word text rest => .ok (.encoded text, rest)
  | _ => other gs

/-- Reads with `content` between comments and white space. -/
def surrounded (content : Reader Token) : Reader Token := fun gs => do
  let (before, gs) := takeCfws gs
  let (token, gs) ← content gs
  let (after, gs) := takeCfws gs
  return (.node (cfwsToken before ++ token :: cfwsToken after), gs)

/-- Reads an atom. -/
def atom : Reader Token := surrounded (encodedOr atext)

/-- Reads a quoted string. -/
def quotedString : Reader Token := surrounded fun gs =>
  match gs with
  | [] => .error (.fault .endOfText)
  | g :: r => if g.is '"' then .ok (bareBehind r) else .error .mismatch

/-- Reads an atom or a quoted string. -/
def word : Reader Token := fun gs =>
  if gs.isEmpty then .error (.fault .endOfText)
  else
    let (leader, gs) := takeCfws gs
    match gs with
    | [] => .error .mismatch
    | g :: _ => do
      let (token, rest) ←
        if g.is '"' then quotedString gs
        else if g.oneOf specials then .error .mismatch
        else atom gs
      return (token.withLeader leader, rest)

/-! ## §6. Phrases. -/

/-- Reads words, full stops and comments up to the end of a phrase. -/
def phraseFrom : Nat → Glyphs → Except Stop (List Token × Glyphs)
  | 0, gs => .ok ([], gs)
  | fuel + 1, gs =>
    match gs with
    | [] => .ok ([], [])
    | g :: r =>
      if endsPhrase g then .ok ([], gs)
      else if g.is '.' then do
        let (more, rest) ← phraseFrom fuel r
        return (.dot :: more, rest)
      else do
        let (token, rest) ← match word gs with
          | .error .mismatch =>
            match takeCfws gs with
            | (some w, rest) => .ok (Token.cfws w, rest)
            | (none, _) => .error .mismatch
          | r => r
        let (more, rest) ← phraseFrom fuel rest
        return (token :: more, rest)

/-- Reads a phrase; it may be empty. -/
def phrase : Reader (List Token) := fun gs =>
  if gs.isEmpty then .error (.fault .endOfText) else phraseFrom (gs.length + 1) gs

end Mailroom.Mime
