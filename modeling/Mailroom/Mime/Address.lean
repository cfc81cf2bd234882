import Mailroom.Mime.Phrase
/-!
  Mailroom.Mime.Address
  ────────────────────────────────
  **ADDRESS HEADERS.**

  An address header lists mailboxes and groups of mailboxes:

      Ann Example <ann@x.com>, b@x.com (Bob), team: c@x.com, d@x.com;

  It is shown with names and local parts quoted only where they need quotes,
  comments gone and encoded words decoded.  What is no mailbox is kept as an
  entry without name and address.
-/
namespace Mailroom.Mime

open Mailroom.Text

/-! ## §1. Parts of an address. -/

/-- A mailbox as it is read: the tokens of its name and of its local part, and
the meaning of its domain. -/
structure Mailbox where
  name : Option (List Token)
  localPart : Option (List Token)
  domain : Option Glyphs
  /-- The domain is a literal that is not closed. -/
  unclosed : Bool := false

/-- Reads `1*atext *("." 1*atext)`. -/
def dotAtomFrom : Nat → Glyphs → Except Stop (List Token × Glyphs)
  | 0, _ => .error .mismatch
  | fuel + 1, gs => do
    let (t, rest) ← atext gs
    match rest with
    | g :: r =>
      if g.is '.' then
        let (more, rest) ← dotAtomFrom fuel r
        return (t :: .dot :: more, rest)
      else return ([t], rest)
    | [] => return ([t], [])

/-- Reads atoms joined by full stops. -/
def dotAtomText : Reader Token := fun gs => do
  let (parts, rest) ← dotAtomFrom (gs.length + 1) gs
  return (.node parts, rest)

/-- Reads atoms joined by full stops, comments around them. -/
def dotAtom : Reader Token := surrounded (encodedOr dotAtomText)

/-- Whether a local part goes on with an element. -/
def continuesLocalPart (g : Glyph) : Bool := g.is '\\' || !endsPhrase g

/-- Reads the words, full stops and backslashes of a local part. -/
def obsoleteFrom : Nat → Glyphs → Except Stop (List Token × Glyphs)
  | 0, gs => .ok ([], gs)
  | fuel + 1, gs =>
    match gs with
    | [] => .ok ([], [])
    | g :: r =>
      if !continuesLocalPart g then .ok ([], gs)
      else do
        let (token, rest) ←
          if g.is '.' then .ok (Token.dot, r)
          else if g.is '\\' then .ok (Token.text [g], r)
          else match word gs with
            | .error .mismatch =>
              match takeCfws gs with
              | (some w, rest) => .ok (Token.cfws w, rest)
              | (none, _) => .error .mismatch
            | r => r
        let (more, rest) ← obsoleteFrom fuel rest
        return (token :: more, rest)

/-- Reads the words of a local part in any order; at least one, and not only
comments. -/
def obsoleteLocalPart : Reader (List Token) := fun gs => do
  let (parts, rest) ← obsoleteFrom (gs.length + 1) gs
  match parts with
  | [] => .error (.fault .emptyWord)
  | [.cfws _] => .error (.fault .emptyWord)
  | _ => return (parts, rest)

/-- Reads a local part. -/
def localPart : Reader (List Token) := fun gs =>
  if gs.isEmpty then .error (.fault .endOfText)
  else
    let (leader, gs) := takeCfws gs
    match gs with
    | [] => .error .mismatch
    | g :: _ => do
      let (token, rest) ← match orElse dotAtom word gs with
        | .error .mismatch =>
          if continuesLocalPart g then .ok (Token.node [], gs) else .error .mismatch
        | r => r
      let token := token.withLeader leader
      let goesOn := match rest with
        | h :: _ => continuesLocalPart h
        | [] => false
      if goesOn then obsoleteLocalPart (token.written ++ rest)
      else
        return (match token with | .node parts => parts | t => [t], rest)

/-- Reads a domain in brackets behind the opening one: its meaning and whether it
is left open. -/
def literalBehind (gs : Glyphs) : Except Stop ((Glyphs × Bool) × Glyphs) :=
  if gs.isEmpty then .ok (([], true), [])
  else
    let (before, gs) := match gs with
      | g :: _ => if g.isWsp then takeBlanks gs else ([], gs)
      | [] => ([], [])
    if gs.isEmpty then .error (.fault .blankLiteral)
    else
      let (text, gs) := ptext ['[', ']'] gs
      let (after, gs) := match gs with
        | g :: _ => if g.isWsp then takeBlanks gs else ([], gs)
        | [] => ([], [])
      match gs with
      | [] => .ok (([], true), [])
      | g :: r =>
        if g.is ']' then
          let (_, rest) := takeCfws r
          let blank (gs : Glyphs) : Glyphs := if gs.isEmpty then [] else glyphs " "
          .ok ((glyphs "[" ++ blank before ++ text ++ blank after ++ glyphs "]", false), rest)
        else .error .mismatch

/-- Reads the further labels of a domain. -/
def labelsFrom : Nat → Glyphs → Except Stop (Glyphs × Glyphs)
  | 0, gs => .ok ([], gs)
  | fuel + 1, gs =>
    match gs with
    | [] => .ok ([], [])
    | g :: r =>
      if g.is '.' then do
        let (token, rest) ← atom r
        let (more, rest) ← labelsFrom fuel rest
        return (.char '.' :: token.meaning ++ more, rest)
      else .ok ([], gs)

/-- Reads a domain: its meaning and whether it is a literal left open. -/
def domain : Reader (Glyphs × Bool) := fun gs =>
  if gs.isEmpty then .error (.fault .endOfText)
  else
    match (takeCfws gs).2 with
    | [] => .error .mismatch
    | g :: r =>
      if g.is '[' then literalBehind r
      else do
        let (token, rest) ← orElse dotAtom atom (g :: r)
        if (rest.head?.map (·.is '@')).getD false then .error .mismatch
        else
          let (more, rest) ← labelsFrom (rest.length + 1) rest
          return ((token.meaning ++ more, false), rest)

/-- Reads a local part and, behind an at sign, a domain. -/
def addressSpec : Reader Mailbox := fun gs => do
  let (parts, rest) ← localPart gs
  match rest with
  | g :: r =>
    if g.is '@' then
      let ((d, unclosed), rest) ← domain r
      return ({ name := none, localPart := some parts, domain := some d, unclosed }, rest)
    else return ({ name := none, localPart := some parts, domain := none }, rest)
  | [] => return ({ name := none, localPart := some parts, domain := none }, [])

/-! ## §2. Mailboxes. -/

/-- Skips commas and comments. -/
def skipCommas : Nat → Glyphs → Glyphs
  | 0, gs => gs
  | fuel + 1, gs =>
    match gs with
    | g :: r =>
      if g.is ',' then skipCommas fuel r
      else if startsCfws g then skipCommas fuel (takeCfws gs).2
      else gs
    | [] => []

/-- Reads the further domains of a route up to its colon. -/
def routeFrom : Nat → Glyphs → Except Stop Glyphs
  | 0, _ => .error .mismatch
  | fuel + 1, gs =>
    match gs with
    | [] => .error .mismatch
    | g :: r =>
      if g.is ',' then
        if r.isEmpty then .error .mismatch
        else
          match (takeCfws r).2 with
          | [] => .error (.fault .endOfText)
          | h :: r' =>
            if h.is '@' then do
              let (_, rest) ← domain r'
              routeFrom fuel rest
            else routeFrom fuel (h :: r')
      else if g.is ':' then .ok r
      else .error .mismatch

/-- Reads the route in front of an address and drops it. -/
def route (gs : Glyphs) : Except Stop Glyphs :=
  match skipCommas (gs.length + 1) gs with
  | g :: r =>
    if g.is '@' then do
      let (_, rest) ← domain r
      routeFrom (rest.length + 1) rest
    else .error .mismatch
  | [] => .error .mismatch

/-- Reads an address between angle brackets. -/
def angleAddress : Reader Mailbox := fun gs =>
  if gs.isEmpty then .error (.fault .endOfText)
  else
    match (takeCfws gs).2 with
    | [] => .error .mismatch
    | open_ :: gs =>
      if !open_.is '<' then .error .mismatch
      else match gs with
        | [] => .error (.fault .endOfText)
        | g :: r =>
          if g.is '>' then .ok ({ name := none, localPart := none, domain := none }, r)
          else do
            let (m, rest) ← match addressSpec gs with
              | .error .mismatch => do
                let rest ← route gs
                addressSpec rest
              | r => r
            let rest := match rest with
              | h :: r => if h.is '>' then r else rest
              | [] => []
            return (m, (takeCfws rest).2)

/-- Puts comments in front of the tokens of a name. -/
def leadName (leader : Option Glyphs) (name : List Token) : Except Stop (List Token) :=
  match leader, name with
  | none, _ => .ok name
  | some w, .cfws v :: rest => .ok (.cfws (w ++ v) :: rest)
  | some _, .dot :: _ => .error (.fault .commentBeforeDot)
  | some _, [] => .error (.fault .emptyWord)
  | some w, t :: rest => .ok (t.withLeader (some w) :: rest)

/-- Reads an address between angle brackets with a name in front. -/
def nameAddress : Reader Mailbox := fun gs =>
  if gs.isEmpty then .error (.fault .endOfText)
  else
    let (leader, gs) := takeCfws gs
    match gs with
    | [] => .error .mismatch
    | g :: _ =>
      if g.is '<' then angleAddress gs
      else if endsPhrase g then .error .mismatch
      else do
        let (name, rest) ← phrase gs
        if rest.isEmpty then .error .mismatch
        else
          let name ← leadName leader name
          let (m, rest) ← angleAddress rest
          return ({ m with name := some name }, rest)

/-- Reads a mailbox. -/
def mailbox : Reader Mailbox := fun gs => do
  let (m, rest) ← orElse nameAddress addressSpec gs
  if m.unclosed then .error (.fault .unclosedLiteral) else return (m, rest)

/-- Skips what is no mailbox up to one of `ends`. -/
def skipInvalid (ends : List Char) : Nat → Glyphs → Except Stop Glyphs
  | 0, gs => .ok gs
  | fuel + 1, gs =>
    match gs with
    | [] => .ok []
    | g :: r =>
      if g.oneOf ends then .ok gs
      else if endsPhrase g then skipInvalid ends fuel r
      else do
        let (_, rest) ← phrase gs
        skipInvalid ends fuel rest

/-! ## §3. Lists. -/

/-- Reads with `item`; where it does not fit, skips to one of `ends` and has
`bad`, or nothing where the text is empty up to there. -/
def itemOr {α : Type} (item : Reader α) (bad : α) (ends : List Char) :
    Glyphs → Except Stop (Option α × Glyphs) := fun gs =>
  match item gs with
  | .ok (a, rest) => .ok (some a, rest)
  | .error .mismatch =>
    let gs := (takeCfws gs).2
    match gs with
    | [] => .ok (none, [])
    | g :: _ =>
      if g.oneOf ends then .ok (none, gs)
      else do return (some bad, ← skipInvalid ends (gs.length + 1) gs)
  | .error f => .error f

/-- The text behind a comma, if it starts with one. -/
def dropComma (gs : Glyphs) : Glyphs :=
  match gs with
  | g :: r => if g.is ',' then r else gs
  | [] => []

/-- Reads the mailboxes of a group up to its semicolon; nothing stands for what
is no mailbox. -/
def membersFrom : Nat → Glyphs → Except Stop (List (Option Mailbox) × Glyphs)
  | 0, gs => .ok ([], gs)
  | fuel + 1, gs =>
    match gs with
    | [] => .ok ([], [])
    | g :: _ =>
      if g.is ';' then .ok ([], gs)
      else do
        let reader : Reader (Option Mailbox) := fun gs => do
          let (m, rest) ← mailbox gs
          return (some m, rest)
        let (item, rest) ← itemOr reader none [',', ';'] gs
        let rest ← skipInvalid [',', ';'] (rest.length + 1) rest
        let (more, rest) ← membersFrom fuel (dropComma rest)
        return (item.toList ++ more, rest)

/-- An entry of an address list. -/
inductive Entry where
  | mailbox (m : Mailbox)
  /-- What is no mailbox. -/
  | invalid
  | group (name : List Token) (members : List (Option Mailbox))
  /-- A group with text behind it. -/
  | brokenGroup (name : List Token)

/-- Reads a group. -/
def group : Reader Entry := fun gs => do
  let (name, rest) ← phrase gs
  match rest with
  | [] => .error .mismatch
  | g :: r =>
    if !g.is ':' then .error .mismatch
    else if (r.head?.map (·.is ';')).getD false then return (.group name [], r.drop 1)
    else
      let (members, rest) ← membersFrom (r.length + 1) (takeCfws r).2
      return (.group name members, (takeCfws (rest.drop 1)).2)

/-- Reads a group or a mailbox. -/
def entry : Reader Entry := orElse group fun gs => do
  let (m, rest) ← mailbox gs
  return (.mailbox m, rest)

/-- Reads a whole address list. -/
def entriesFrom : Nat → Glyphs → Except Stop (List Entry)
  | 0, _ => .ok []
  | fuel + 1, gs =>
    match gs with
    | [] => .ok []
    | _ => do
      let (item, rest) ← itemOr entry .invalid [','] gs
      let junk := match rest with
        | g :: _ => !g.is ','
        | [] => false
      let item := match item with
        | some (Entry.group name members) =>
          if junk then some (Entry.brokenGroup name) else some (Entry.group name members)
        | i => i
      let rest ← skipInvalid [','] (rest.length + 1) rest
      let more ← entriesFrom fuel (dropComma rest)
      return item.toList ++ more

/-! ## §4. Showing addresses. -/

/-- The first part of a token; a fault if it has none. -/
def firstPart : Token → Except Stop (Option Token)
  | .node [] => .error (.fault .emptyWord)
  | .node (t :: _) => .ok (some t)
  | .encoded [] => .error (.fault .emptyWord)
  | .bare _ false => .error (.fault .emptyWord)
  | _ => .ok none

/-- Drops comments from the front of a name. -/
def trimNameStart : List Token → Except Stop (List Token)
  | [] => .error (.fault .emptyWord)
  | .cfws _ :: rest => .ok rest
  | .node (.cfws _ :: parts) :: rest => .ok (.node parts :: rest)
  | .node [] :: _ => .error (.fault .emptyWord)
  | .dot :: _ => .error (.fault .loneDot)
  | ts => .ok ts

/-- A token with the order of its parts turned round. -/
def turned : Token → Token
  | .node parts => .node parts.reverse
  | t => t

/-- The meaning of a name, without comments at its ends. -/
def nameText (tokens : List Token) : Except Stop Glyphs :=
  if tokens.isEmpty then .ok []
  else do
    let tokens ← trimNameStart tokens
    let back ← trimNameStart (tokens.reverse.map turned)
    return Token.meaningAll (back.reverse.map turned)

/-- Whether a token is a full stop. -/
def isDot : Token → Bool
  | .dot => true
  | _ => false

/-- Whether a token has parts. -/
def isComposite : Token → Bool
  | .node _ | .encoded _ | .bare _ _ => true
  | _ => false

/-- The parts of a local part without comments around full stops: `done` holds
those before, last first, `last` the one before and whether it is composite. -/
def localFrom (done : List Token) (last : Token) (composite : Bool) :
    List Token → Except Stop (List Token)
  | [] => .ok done.reverse
  | .cfws _ :: rest => localFrom done last composite rest
  | tok :: rest => do
    let done ←
      if composite && isDot tok then
        match ← firstPart (turned last) with
        | some (.cfws _) =>
          match turned last with
          | .node (_ :: parts) => pure (.node parts.reverse :: done.drop 1)
          | _ => pure done
        | _ => pure done
      else pure done
    let tok ←
      if isComposite tok && isDot last then
        match ← firstPart tok with
        | some (.cfws _) =>
          match tok with
          | .node (_ :: parts) => pure (.node parts)
          | t => pure t
        | _ => pure tok
      else pure tok
    localFrom (tok :: done) tok (isComposite tok) rest

/-- The meaning of a local part. -/
def localText (parts : List Token) : Except Stop Glyphs := do
  let all ← localFrom [] .dot false (parts ++ [.dot])
  return Token.meaningAll all.dropLast

/-- A text without any white space. -/
def withoutBlanks (gs : Glyphs) : Glyphs := gs.filter (!·.isTrim)

/-- A line break. -/
def isLineBreak (g : Glyph) : Bool := g.is '\r' || g.is '\n'

/-- An address in the form in which it is shown. -/
def addressText (name localPart domain : Glyphs) : Except Stop Glyphs :=
  if (name ++ localPart ++ domain).any isLineBreak then .error (.fault .lineBreak)
  else
    let quotedLocal :=
      if localPart.any fun g => g.oneOf (specials.erase '.') || g.isWsp
      then inQuotes localPart else localPart
    let spec := if domain.isEmpty then quotedLocal else quotedLocal ++ .char '@' :: domain
    if name.isEmpty then .ok (if spec.isEmpty then glyphs "<>" else spec)
    else
      let name := if name.any (·.oneOf specials) then inQuotes name else name
      .ok (name ++ glyphs " <" ++ spec ++ glyphs ">")

/-- A mailbox in the form in which it is shown. -/
def mailboxText : Option Mailbox → Except Stop Glyphs
  | none => addressText [] [] []
  | some m => do
    let name ← match m.name with
      | some tokens => nameText tokens
      | none => pure []
    let local_ ← match m.localPart with
      | some parts => localText parts
      | none => pure []
    addressText name local_ (withoutBlanks (m.domain.getD []))

/-- Texts with a comma and a space between them. -/
def joinComma (items : List Glyphs) : Glyphs := (items.intersperse (glyphs ", ")).flatten

/-- An entry in the form in which it is shown. -/
def entryText : Entry → Except Stop Glyphs
  | .mailbox m => mailboxText (some m)
  | .invalid => mailboxText none
  | .group name members => do
    let name ← nameText name
    let name := if name.any (·.oneOf specials) then inQuotes name else name
    let members ← members.mapM mailboxText
    let list := joinComma members
    return name ++ glyphs ":" ++ (if list.isEmpty then [] else .char ' ' :: list) ++ glyphs ";"
  | .brokenGroup name => do
    let _ ← nameText name
    .error (.fault .textAfterGroup)

/-- An address header in the form in which it is shown. -/
def addressList (gs : Glyphs) : Except HeaderFault Glyphs :=
  match entriesFrom (gs.length + 1) gs >>= fun entries => entries.mapM entryText with
  | .ok texts => .ok (joinComma texts)
  | .error (.fault f) => .error f
  | .error .mismatch => .ok []

end Mailroom.Mime
