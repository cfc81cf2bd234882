import Mailroom.Mime.Phrase
import Mailroom.Text.DecimalDigit
import Mailroom.Text.Replace
/-!
  Mailroom.Mime.Parameter
  ────────────────────────────────
  **HEADERS WITH PARAMETERS.**

  Content-Type and Content-Disposition are a value and parameters behind
  semicolons.  A parameter may come in numbered sections and may be extended,
  that is percent-encoded in a character set that it names:

      text/plain; charset=utf-8; name*0*=utf-8''a%20; name*1*=b

  `MediaHeader.text` is the canonical form: each parameter once, its value
  decoded and quoted.  Content types and parameters are looked up in that form.
-/
namespace Mailroom.Mime

open Mailroom.Text

/-! ## §1. Tokens and attributes. -/

/-- The characters that end a token. -/
def tokenSpecials : List Char := "()<>@,:;\\\"[]/?=".toList

/-- The characters that end an attribute, white space aside. -/
def attributeSpecials : List Char := tokenSpecials ++ ['*', '\'', '%']

/-- The characters that end an attribute of an extended parameter, white space
aside. -/
def extendedSpecials : List Char := tokenSpecials ++ ['*', '\'']

/-- Reads a run of elements that are neither white space nor one of `ends`. -/
def runUpTo (ends : List Char) : Reader Glyphs := fun gs =>
  let run := gs.takeWhile fun g => !(g.oneOf ends || g.isWsp)
  if run.isEmpty then .error .mismatch else .ok (run, gs.drop run.length)

/-- Reads a run between comments and white space. -/
def runToken (ends : List Char) : Reader Token :=
  surrounded fun gs => do
    let (run, rest) ← runUpTo ends gs
    return (.text run, rest)

/-- A token without comments, and the quotes of a quoted string gone. -/
def strippedValue : Token → Glyphs
  | .node parts => parts.flatMap fun
    | .cfws _ => []
    | t => t.meaning
  | t => t.meaning

/-! ## §2. Parameters. -/

/-- A parameter as it is read. -/
structure Parameter where
  name : Glyphs
  section_ : Nat := 0
  extended : Bool := false
  charset : Glyphs := glyphs "us-ascii"
  value : Glyphs := []

/-- Reads a section number. -/
def sectionNumber? (gs : Glyphs) : Option (Nat × Glyphs) :=
  match gs with
  | star :: rest =>
    let digits := rest.takeWhile (·.sat isDigit)
    if star.is '*' && !digits.isEmpty then
      some (ofDigits (digits.filterMap fun
        | .char c => digitValue? c
        | .octet _ => none), rest.drop digits.length)
    else none
  | [] => none

/-- Reads the value of a parameter, quoted or not. -/
def parameterValue : Reader Token := fun gs =>
  match (takeCfws gs) with
  | (_, []) => .error .mismatch
  | (leader, g :: r) => do
    let (token, rest) ←
      if g.is '"' then quotedString (g :: r) else runToken extendedSpecials (g :: r)
    return (token.withLeader leader, rest)

/-- Whether a text starts with a given character. -/
def startsWith (c : Char) (gs : Glyphs) : Bool := (gs.head?.map (·.is c)).getD false

/-- Whether a quoted value of an extended parameter can stand for the value
itself: it starts with a character set, or goes on a value all of whose
characters an extended value may have. -/
def standsForExtended (initial : Bool) (inner : Glyphs) : Except Stop Bool :=
  if initial then
    if startsWith '\'' inner then .ok true
    else do
      let (_, rest) ← runUpTo attributeSpecials inner
      return startsWith '\'' rest
  else
    match runUpTo extendedSpecials inner with
    | .ok (_, rest) => .ok rest.isEmpty
    | .error _ => .ok false

/-- The content of a quoted value that stands for an extended one. -/
def quotedRest : Nat → Glyphs → Glyphs
  | 0, gs => gs
  | fuel + 1, gs =>
    match gs with
    | [] => []
    | g :: r =>
      if g.isWsp then
        .char ' ' :: quotedRest fuel (takeBlanks gs).2
      else if g.is '"' then g :: quotedRest fuel r
      else
        let (taken, rest) := ptext ['"'] gs
        taken ++ quotedRest fuel rest

/-- Reads the value behind the equals sign of a parameter. -/
def valueBehind (p : Parameter) : Reader Parameter := fun gs => do
  let gs := (takeCfws gs).2
  let quotedValue ←
    if p.extended && startsWith '"' gs then do
      let (token, rest) ← quotedString gs
      let inner := strippedValue token
      if ← standsForExtended (p.section_ == 0) inner then pure (some (inner, rest)) else pure none
    else pure none
  let (gs, remainder) := match quotedValue with
    | some (inner, rest) => (inner, some rest)
    | none => (gs, none)
  let done (p : Parameter) (rest : Glyphs) : Parameter × Glyphs := (p, remainder.getD rest)
  let (token?, rest) ←
    if startsWith '\'' gs then pure (none, gs)
    else do
      let (t, rest) ← parameterValue gs
      pure (some t, rest)
  let valueOf (t : Option Token) : Glyphs := (t.map strippedValue).getD []
  if (!p.extended || 0 < p.section_) && !startsWith '\'' rest then
    return done { p with value := valueOf token? } rest
  else if rest.isEmpty then
    if remainder.isNone then return done { p with value := valueOf token? } rest
    else return done { p with value := valueOf token? } []
  else
    let p := match token? with
      | some t => { p with charset := t.meaning }
      | none => p
    if !startsWith '\'' rest then .error .mismatch
    else
      let rest := rest.drop 1
      let rest ←
        if rest.isEmpty || startsWith '\'' rest then pure rest
        else do
          let (_, rest) ← runUpTo attributeSpecials rest
          if startsWith '\'' rest then pure rest else .error .mismatch
      let rest := rest.drop 1
      if remainder.isSome then
        if rest.isEmpty then .error (.fault .emptyWord)
        else return done { p with value := quotedRest (rest.length + 1) rest } []
      else
        let (t, rest) ← parameterValue rest
        return done { p with value := strippedValue t } rest

/-- Reads a parameter. -/
def parameter : Reader Parameter := fun gs => do
  let (nameToken, rest) ← runToken attributeSpecials gs
  let name := nameToken.meaning
  let p : Parameter := { name := trimWhile Glyph.isTrim name }
  if rest.isEmpty || startsWith ';' rest then return (p, rest)
  else
    let (p, rest) ←
      if startsWith '*' rest then
        let (p, rest) := match sectionNumber? rest with
          | some (n, rest) => ({ p with section_ := n }, rest)
          | none => (p, rest)
        if rest.isEmpty then .error .mismatch
        else if startsWith '*' rest then pure ({ p with extended := true }, rest.drop 1)
        else pure (p, rest)
      else pure (p, rest)
    if rest.isEmpty then .error (.fault .endOfText)
    else if !startsWith '=' rest then .error .mismatch
    else valueBehind p (rest.drop 1)

/-- Skips what is no parameter up to the next semicolon. -/
def skipToSemicolon : Nat → Glyphs → Except Stop Glyphs
  | 0, gs => .ok gs
  | fuel + 1, gs =>
    match gs with
    | [] => .ok []
    | g :: r =>
      if g.is ';' then .ok gs
      else if endsPhrase g then skipToSemicolon fuel r
      else do
        let (_, rest) ← phrase gs
        skipToSemicolon fuel rest

/-- Reads all parameters, passing over what is none. -/
def parametersFrom : Nat → Glyphs → Except Stop (List Parameter)
  | 0, _ => .ok []
  | fuel + 1, gs =>
    match gs with
    | [] => .ok []
    | _ => do
      let (item, rest) ← match parameter gs with
        | .ok (p, rest) => pure (some p, rest)
        | .error .mismatch => pure (none, gs)
        | .error f => .error f
      let rest ← skipToSemicolon (rest.length + 1) rest
      let more ← parametersFrom fuel (rest.drop 1)
      return item.toList ++ more

/-! ## §3. Values. -/

/-- Octets with percent escapes resolved; the first `skip` are part of one. -/
def unescapeFrom : Nat → List UInt8 → List UInt8
  | _, [] => []
  | skip + 1, _ :: bs => unescapeFrom skip bs
  | 0, b :: bs =>
    match b, bs with
    | 37, c :: d :: _ =>
      match hexDigit? (Char.ofNat c.toNat), hexDigit? (Char.ofNat d.toNat) with
      | some x, some y => UInt8.ofNat (16 * x + y) :: unescapeFrom 2 bs
      | _, _ => b :: unescapeFrom 0 bs
    | _, _ => b :: unescapeFrom 0 bs

/-- The text of an extended value in a character set. -/
def extendedText (charset value : Glyphs) : Glyphs :=
  if value.any fun g => match g with | .octet _ => true | .char _ => false then
    (unescapeFrom 0 (value.flatMap Glyph.octets)).map fun b => .char (Char.ofNat b.toNat)
  else
    let bs := unescapeFrom 0 (value.flatMap Glyph.octets)
    (inCharset? (shown charset) bs).getD (glyphsOf bs)

/-- A value of sections in order; sections that are out of their place count
only if they are extended. -/
def sectionValues (charset : Glyphs) : Nat → List Parameter → Glyphs
  | _, [] => []
  | i, p :: ps =>
    if p.section_ != i && !p.extended then sectionValues charset i ps
    else
      (if p.extended then extendedText charset p.value else p.value)
        ++ sectionValues charset (i + 1) ps

/-- The value of the parameters of one name. -/
def combined (ps : List Parameter) : Glyphs :=
  let ps := ps.mergeSort fun a b => a.section_ ≤ b.section_
  match ps with
  | [] => []
  | [p] => sectionValues p.charset 0 [p]
  | p :: q :: rest =>
    if !p.extended && q.section_ == 0 then sectionValues p.charset 0 [p]
    else sectionValues p.charset 0 (p :: q :: rest)

/-- The names of parameters with their values, in order of appearance. -/
def namedValues (ps : List Parameter) : List (Glyphs × Glyphs) :=
  ((ps.map (·.name)).eraseDups).map fun name =>
    (name, combined (ps.filter (·.name == name)))

/-- Parameters in their canonical form. -/
def parametersText (ps : List Parameter) : Glyphs :=
  let items := (namedValues ps).map fun (name, value) =>
    if value.isEmpty then name else name ++ .char '=' :: inQuotes value
  if items.isEmpty then []
  else .char ' ' :: (items.intersperse (glyphs "; ")).flatten

/-! ## §4. Headers. -/

/-- Text in its written form up to a semicolon, and the parameters behind it. -/
def looseText : Nat → Glyphs → Except Stop Glyphs
  | 0, _ => .ok []
  | fuel + 1, gs =>
    match gs with
    | [] => .ok []
    | g :: r =>
      if g.is ';' then do
        let ps ← parametersFrom (r.length + 1) r
        return g :: parametersText ps
      else if endsPhrase g then do return g :: (← looseText fuel r)
      else do
        let (tokens, rest) ← phrase gs
        return Token.writtenAll tokens ++ (← looseText fuel rest)

/-- The parameters behind a value, or what stands in their place, in canonical
form. -/
def behindValue (gs : Glyphs) : Except Stop Glyphs := looseText (gs.length + 1) gs

/-- A fault alone stops a header; a form that does not fit leaves `default`. -/
def faultOr {α : Type} (default : α) : Except Stop α → Except HeaderFault α
  | .ok a => .ok a
  | .error .mismatch => .ok default
  | .error (.fault f) => .error f

/-- A content type header in canonical form. -/
def contentTypeText (gs : Glyphs) : Except HeaderFault String := do
  let text : Except Stop Glyphs :=
    match runToken tokenSpecials gs with
    | .error .mismatch => behindValue gs
    | .error f => .error f
    | .ok (main, rest) =>
      if !startsWith '/' rest then do return main.written ++ (← behindValue rest)
      else
        let rest := rest.drop 1
        match runToken tokenSpecials rest with
        | .error .mismatch => do return main.written ++ .char '/' :: (← behindValue rest)
        | .error f => .error f
        | .ok (sub, rest) => do
          return main.written ++ .char '/' :: sub.written ++ (← behindValue rest)
  return shown (← faultOr [] text)

/-- The value of a content disposition header in lower case; nothing if it has
none. -/
def disposition? (gs : Glyphs) : Except HeaderFault (Option Glyphs) :=
  faultOr none <|
    match runToken tokenSpecials gs with
    | .error .mismatch => do
      let _ ← behindValue gs
      return none
    | .error f => .error f
    | .ok (token, rest) => do
      let _ ← behindValue rest
      return some (strippedValue token)

/-- Text in its written form up to the end. -/
def looseWords : Nat → Glyphs → Except Stop Glyphs
  | 0, _ => .ok []
  | fuel + 1, gs =>
    match gs with
    | [] => .ok []
    | g :: r =>
      if endsPhrase g then do return g :: (← looseWords fuel r)
      else do
        let (tokens, rest) ← phrase gs
        return Token.writtenAll tokens ++ (← looseWords fuel rest)

/-- A transfer encoding header in canonical form. -/
def transferEncodingText (gs : Glyphs) : Except HeaderFault String := do
  let text : Except Stop Glyphs :=
    match runToken tokenSpecials gs with
    | .ok (token, rest) => do return token.written ++ (← looseWords (rest.length + 1) rest)
    | .error .mismatch => looseWords (gs.length + 1) gs
    | .error f => .error f
  return shown (← faultOr [] text)

/-! ## §5. Parameters of a canonical form. -/

/-- The places of the quotes of a parameter list: whether the quotes before the
first `n` characters leave one open. -/
def leavesOpen (n : Nat) (cs : List Char) : Bool :=
  let front := cs.take n
  let quotes := (front.filter (· == '"')).length
  let escaped := (replaceAll ['\\', '"'] [Char.ofNat 0] front).length
  (quotes + (front.length - escaped)) % 2 == 1

/-- The place of the first semicolon from `start` on that is not inside
quotes. -/
def endOfParameter (cs : List Char) : Nat → Nat → Nat
  | 0, _ => cs.length
  | fuel + 1, start =>
    let i := start + ((cs.drop start).takeWhile (· ≠ ';')).length
    if cs.length ≤ i then cs.length
    else if 0 < i && leavesOpen i cs then endOfParameter cs fuel (i + 1)
    else i

/-- The parameters of a canonical form as written, the value in front included. -/
def splitParameters : Nat → List Char → List (List Char)
  | 0, _ => []
  | fuel + 1, cs =>
    let n := endOfParameter cs (cs.length + 1) 0
    cs.take n :: (match cs.drop n with
      | _ :: rest => splitParameters fuel rest
      | [] => [])

/-- A text without the quotes or angle brackets around it. -/
def unquoted (cs : List Char) : List Char :=
  match cs with
  | '"' :: rest =>
    if rest.getLast? == some '"' then
      replaceAll ['\\', '"'] ['"'] (replaceAll ['\\', '\\'] ['\\'] rest.dropLast)
    else cs
  | '<' :: rest => if rest.getLast? == some '>' then rest.dropLast else cs
  | _ => cs

/-- A text between quotes, with a backslash before quotes and backslashes. -/
def requoted (cs : List Char) : List Char :=
  '"' :: cs.flatMap (fun c => if c == '\\' || c == '"' then ['\\', c] else [c]) ++ ['"']

/-- The name and the value of a written parameter. -/
def nameAndValue (cs : List Char) : List Char × List Char :=
  let name := cs.takeWhile (· ≠ '=')
  let value := (cs.drop name.length).drop 1
  (lowerChars (trimWhile isTrimmed name), trimWhile isTrimmed value)

/-- The value of a parameter of a header in canonical form. -/
def parameter? (name : String) (header : String) : Option String :=
  let items := (splitParameters (header.length + 1) header.toList).map nameAndValue
  let items := match items with
    | first :: rest => first :: rest.map fun (n, v) => (n, requoted (unquoted v))
    | [] => []
  (items.find? fun (n, _) => String.ofList (lowerChars n) == name).map fun (_, v) =>
    String.ofList (unquoted v)

/-- The content type of a header in canonical form: its value in lower case, and
plain text where that has not exactly one slash. -/
def mediaType (header : String) : String :=
  let value := lower (trim (String.ofList (header.toList.takeWhile (· ≠ ';'))))
  if (value.toList.filter (· == '/')).length == 1 then value else "text/plain"

end Mailroom.Mime
