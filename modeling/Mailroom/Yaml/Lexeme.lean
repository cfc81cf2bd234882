import Mailroom.Number.Reading
import Mailroom.Text.DecimalDigit
import Mailroom.Text.Ranges
import Mailroom.Text.Utf8
import Mailroom.Yaml.Cursor
import Mailroom.Yaml.Token
import Mailroom.Yaml.Value
/-!
  Mailroom.Yaml.Lexeme
  ────────────────────────────────
  **READING ONE LEXEME.**

  Each reader starts at a cursor and returns the token that is written there and
  the cursor behind it.  Lines inside a scalar are folded: a single line break
  stands for a blank, and of more than one the first is dropped.
-/
namespace Mailroom.Yaml

open Mailroom.Text

/-- A reader of what is written at a cursor. -/
abbrev Lexeme (α : Type) := Cursor → Except Fault (α × Cursor)

/-- Fails unless a condition holds. -/
def expect (b : Bool) : Except Fault Unit := if b then .ok () else .error .malformed

/-! ## §1. Directives. -/

/-- A number in a directive. -/
def directiveNumber : Lexeme Nat := fun c => do
  let (digits, c) := c.run isDigit
  expect !digits.isEmpty
  if Number.maxDigits < digits.length then throw (.tooManyDigits digits.length)
  return (ofDigits (digits.map fun d => d.toNat - 48), c)

/-- The handle of a tag: an exclamation mark, or a name between two. -/
def tagHandle : Lexeme String := fun c => do
  expect (c.isAt '!')
  let c := c.step
  if c.isAt ' ' then return ("!", c)
  else
    let (name, c) := c.run isNameChar
    expect (c.isAt '!')
    return (String.ofList ('!' :: name ++ ['!']), c.step)

/-- A character of a tag, escapes apart. -/
def isUriChar (c : Char) : Bool := c.isAlphanum || "-;/?:@&=+$,_.!~*'()[]".toList.contains c

/-- Octets written as escapes, one behind the other. -/
def escapedOctets : Nat → Lexeme (List UInt8)
  | 0, c => .ok ([], c)
  | fuel + 1, c =>
    match c.rest with
    | '%' :: a :: b :: _ =>
      match hexDigit? a, hexDigit? b with
      | some a, some b => do
        let (more, c) ← escapedOctets fuel (c.skip 3)
        return (UInt8.ofNat (16 * a + b) :: more, c)
      | _, _ => .error .malformed
    | '%' :: _ => .error .malformed
    | _ => .ok ([], c)

/-- The rest of a tag. -/
def uriFrom : Nat → Lexeme (List Char)
  | 0, c => .ok ([], c)
  | fuel + 1, c => do
    let (plain, c) := c.run isUriChar
    if c.isAt '%' then
      let (octets, c) ← escapedOctets c.rest.length c
      expect (isUtf8 octets)
      let (more, c) ← uriFrom fuel c
      return (plain ++ decodeChars octets ++ more, c)
    else return (plain, c)

/-- A tag, or what a tag handle stands for. -/
def uri : Lexeme String := fun c => do
  let (cs, c') ← uriFrom (c.rest.length + 1) c
  expect (c'.index != c.index)
  return (String.ofList cs, c')

/-- Expects nothing more on the line than a comment. -/
def endOfLine (c : Cursor) : Except Fault Cursor := do
  let c := c.skipBlanks
  let c := if c.isAt '#' then c.skipLine else c
  expect (endsLine c.head?)
  return c.skipBreak

/-- A directive, behind its percent sign. -/
def directive : Lexeme Token := fun c => do
  let (name, c) := c.step.run isNameChar
  expect (!name.isEmpty && endsWord c.head?)
  if name == "YAML".toList then
    let (major, c) ← directiveNumber c.skipBlanks
    expect (c.isAt '.')
    let (_, c) ← directiveNumber c.step
    expect (endsWord c.head?)
    return (.version major, ← endOfLine c)
  else if name == "TAG".toList then
    let (handle, c) ← tagHandle c.skipBlanks
    expect (c.isAt ' ')
    let (stands, c) ← uri c.skipBlanks
    expect (endsWord c.head?)
    return (.handle handle stands, ← endOfLine c)
  else return (.directive, ← endOfLine c.skipLine)

/-! ## §2. Anchors and tags. -/

/-- Whether a name may end before a character. -/
def endsName : Option Char → Bool
  | none => true
  | some c => endsToken (some c) || "?:,]\x7d%@".toList.contains c || c.toNat == 0x60

/-- The name of an anchor, behind the character that announces it. -/
def anchorName : Lexeme String := fun c => do
  let (name, c) := c.step.run isNameChar
  expect (!name.isEmpty && endsName c.head?)
  return (String.ofList name, c)

/-- A tag. -/
def tagToken : Lexeme Token := fun c => do
  let (token, c) ←
    match c.ahead? 1 with
    | some '<' => do
      let (suffix, c) ← uri (c.skip 2)
      expect (c.isAt '>')
      pure (Token.tag none suffix, c.step)
    | next =>
      if endsToken next then pure (Token.tag none "!", c.step)
      else if ((c.rest.drop 1).takeWhile fun x => !endsWord (some x)).contains '!' then do
        let (handle, c) ← tagHandle c
        let (suffix, c) ← uri c
        pure (Token.tag (some handle) suffix, c)
      else do
        let (suffix, c) ← uri c.step
        pure (Token.tag (some "!") suffix, c)
  expect (endsWord c.head?)
  return (token, c)

/-! ## §3. Quoted scalars. -/

/-- The character written by one letter behind a backslash. -/
def escaped? (c : Char) : Option Char :=
  (escapes.find? fun e => e.1 == c).map fun e => Char.ofNat e.2
where
  /-- The letters and the code points they stand for. -/
  escapes : List (Char × Nat) :=
    [('0', 0), ('a', 7), ('b', 8), ('t', 9), ('\t', 9), ('n', 10), ('v', 11), ('f', 12), ('r', 13),
     ('e', 27), (' ', 32), ('"', 34), ('\\', 92), ('/', 47), ('N', 0x85), ('_', 0xA0),
     ('L', 0x2028), ('P', 0x2029)]

/-- The number of hexadecimal digits behind a backslash and a letter. -/
def codeLength? (c : Char) : Option Nat :=
  if c == 'x' then some 2 else if c == 'u' then some 4 else if c == 'U' then some 8 else none

/-- The number written by hexadecimal digits. -/
def hexValue? (cs : List Char) : Option Nat :=
  (cs.mapM hexDigit?).map fun ds => ds.foldl (fun n d => 16 * n + d) 0

/-- The line breaks that follow a line break, and the blanks around them. -/
def breaksInQuotes : Nat → Lexeme (List Char)
  | 0, c => .ok ([], c)
  | fuel + 1, c => do
    expect !c.atSeparator
    let c := (c.run fun x => x == ' ' || x == '\t').2
    match c.lineBreak? with
    | some (b, c) => do
      let (more, c) ← breaksInQuotes fuel c
      return (b :: more, c)
    | none => return ([], c)

/-- What a line break and the breaks that follow it stand for. -/
def folded (first : Char) (more : List Char) : List Char :=
  if first != '\n' then first :: more else if more.isEmpty then [' '] else more

/-- Reads a quoted scalar up to the closing quote; `acc` holds the characters
before, last first. -/
def quotedFrom (double : Bool) : Nat → List Char → Lexeme (List Char)
  | 0, _, _ => .error .malformed
  | fuel + 1, acc, c =>
    match c.head? with
    | none => .error .malformed
    | some x =>
      if !double && x == '\'' && c.ahead? 1 == some '\'' then
        quotedFrom double fuel ('\'' :: acc) (c.skip 2)
      else if x == (if double then '"' else '\'') then .ok (acc.reverse, c.step)
      else if double && x == '\\' then
        match c.ahead? 1 with
        | none => .error .malformed
        | some e =>
          match escaped? e, codeLength? e with
          | some y, _ => quotedFrom double fuel (y :: acc) (c.skip 2)
          | none, some n =>
            let digits := (c.rest.drop 2).take n
            match hexValue? digits with
            | none => .error .malformed
            | some code =>
              if digits.length != n then .error .malformed
              else if 0x110000 ≤ code then .error .noSuchCharacter
              else
                let y := if 0xD800 ≤ code && code < 0xE000 then replacement else Char.ofNat code
                quotedFrom double fuel (y :: acc) (c.skip (n + 2))
          | none, none =>
            match c.step.lineBreak? with
            | none => .error .malformed
            | some (_, c) => do
              let (more, c) ← breaksInQuotes (c.rest.length + 1) c
              quotedFrom double fuel (more.reverse ++ acc) c
      else if x == ' ' || x == '\t' || isBreak x then
        let (blanks, c) := c.run fun x => x == ' ' || x == '\t'
        match c.lineBreak? with
        | some (b, c) => do
          let (more, c) ← breaksInQuotes (c.rest.length + 1) c
          quotedFrom double fuel ((folded b more).reverse ++ acc) c
        | none => quotedFrom double fuel (blanks.reverse ++ acc) c
      else quotedFrom double fuel (x :: acc) c.step

/-- A scalar between quotes. -/
def quotedScalar (double : Bool) : Lexeme Token := fun c => do
  let (cs, c') ← quotedFrom double (c.rest.length + 1) [] c.step
  return (.scalar (String.ofList cs) false, c')

/-! ## §4. Block scalars. -/

/-- What becomes of the line breaks at the end of a block scalar. -/
inductive Chomping where
  | clip | strip | keep
  deriving DecidableEq

/-- A chomping indicator. -/
def chomping? (c : Cursor) : Option Chomping :=
  if c.isAt '+' then some .keep else if c.isAt '-' then some .strip else none

/-- An indentation indicator. -/
def increment? (c : Cursor) : Option Nat :=
  match c.head? with
  | some d => if isDigit d then some (d.toNat - 48) else none
  | none => none

/-- The indicators in the first line of a block scalar, in any order. -/
def indicators : Lexeme (Chomping × Option Nat) := fun c => do
  let (chomp, size, c) :=
    match chomping? c with
    | some chomp =>
      match increment? c.step with
      | some n => (chomp, some n, c.skip 2)
      | none => (chomp, none, c.step)
    | none =>
      match increment? c with
      | some n =>
        match chomping? c.step with
        | some chomp => (chomp, some n, c.skip 2)
        | none => (Chomping.clip, some n, c.step)
      | none => (Chomping.clip, none, c)
  expect (size != some 0 && endsWord c.head?)
  return ((chomp, size), c)

/-- Skips blanks up to a column. -/
def skipTo (column : Nat) (c : Cursor) : Cursor :=
  c.skip (min (column - c.column) (c.rest.takeWhile (· == ' ')).length)

/-- The line breaks at the cursor, each with the indentation of the next line. -/
def breaksInBlock (column : Nat) : Nat → Cursor → List Char × Cursor
  | 0, c => ([], c)
  | fuel + 1, c =>
    let c := skipTo column c
    match c.lineBreak? with
    | some (b, c) =>
      let (more, c) := breaksInBlock column fuel c
      (b :: more, c)
    | none => ([], c)

/-- The blank lines in front of a block scalar, the largest indentation among
them and the first line, and the cursor behind that indentation. -/
def leadingBreaks : Nat → Nat → Cursor → (List Char × Nat) × Cursor
  | 0, size, c => (([], size), c)
  | fuel + 1, size, c =>
    match c.lineBreak? with
    | some (b, c) =>
      let ((more, size), c) := leadingBreaks fuel size c
      ((b :: more, size), c)
    | none =>
      if c.isAt ' ' then
        let c := c.skipBlanks
        leadingBreaks fuel (max size c.column) c
      else (([], size), c)

/-- Whether a line of a block scalar starts with a blank. -/
def startsBlank (c : Cursor) : Bool := c.isAt ' ' || c.isAt '\t'

/-- The lines of a block scalar, indented to a column: `breaks` are the line
breaks before the cursor.  Returns the text up to the last line, the break of
that line and those behind it. -/
def blockLines (fold : Bool) (column : Nat) :
    Nat → List Char → Cursor → (List Char × List Char × List Char) × Cursor
  | 0, breaks, c => (([], [], breaks), c)
  | fuel + 1, breaks, c =>
    if c.column != column || c.head?.isNone then (([], [], breaks), c)
    else
      let blank := startsBlank c
      let (text, c) := c.run fun x => !isBreak x
      let (last, c) := match c.lineBreak? with
        | some (b, c) => ([b], c)
        | none => ([], c)
      let (more, c) := breaksInBlock column (c.rest.length + 1) c
      if c.column == column && c.head?.isSome then
        let joint :=
          if fold && last == ['\n'] && !blank && !startsBlank c then
            if more.isEmpty then [' '] else []
          else last
        let ((tail, end_, behind), c) := blockLines fold column fuel more c
        ((breaks ++ text ++ joint ++ tail, end_, behind), c)
      else ((breaks ++ text, last, more), c)

/-- A block scalar in a block of some indentation. -/
def blockScalar (fold : Bool) (indent : Int) : Lexeme Token := fun c => do
  let ((chomp, size), c) ← indicators c.step
  let c ← endOfLine c
  let least := (max 1 (indent + 1)).toNat
  let ((breaks, column), c) :=
    match size with
    | some n =>
      let column := least + n - 1
      let (breaks, c) := breaksInBlock column (c.rest.length + 1) c
      ((breaks, column), c)
    | none =>
      let ((breaks, widest), c) := leadingBreaks (2 * c.rest.length + 2) 0 c
      ((breaks, max least widest), c)
  let ((text, last, behind), c) := blockLines fold column (c.rest.length + 1) breaks c
  let text := match chomp with
    | .strip => text
    | .clip => text ++ last
    | .keep => text ++ last ++ behind
  return (.scalar (String.ofList text) false, c)

/-! ## §5. Plain scalars. -/

/-- A character that separates entries inside brackets. -/
def isFlowMark (c : Char) : Bool := ",[]\x7b\x7d".toList.contains c

/-- The length of the run of a plain scalar that holds no blank. -/
def plainLength (flow : Bool) : List Char → Nat
  | [] => 0
  | x :: rest =>
    if endsToken (some x) then 0
    else if x == ':' && (endsToken rest.head? || (flow && (rest.head?.map isFlowMark).getD false)) then 0
    else if flow && (isFlowMark x || x == '?') then 0
    else plainLength flow rest + 1

/-- The line breaks behind a line break in a plain scalar; nothing at a separator
of documents. -/
def breaksInPlain : Nat → Cursor → Option (List Char) × Cursor
  | 0, c => (some [], c)
  | fuel + 1, c =>
    let c := c.skipBlanks
    match c.lineBreak? with
    | some (b, c) =>
      if c.atSeparator then (none, c)
      else
        let (more, c) := breaksInPlain fuel c
        (more.map (b :: ·), c)
    | none => (some [], c)

/-- The blanks or line breaks behind a run of a plain scalar, whether there was a
line break, and the cursor behind them. -/
def plainSpaces (c : Cursor) : (List Char × Bool) × Cursor :=
  let (blanks, c) := c.run (· == ' ')
  match c.lineBreak? with
  | some (b, c) =>
    if c.atSeparator then (([], true), c)
    else
      match breaksInPlain (c.rest.length + 1) c with
      | (none, c) => (([], true), c)
      | (some more, c) => ((folded b more, true), c)
  | none => ((blanks, false), c)

/-- Reads the runs of a plain scalar: `spaces` are those in front of the next run,
`broken` says whether there was a line break since the last run. -/
def plainFrom (flow : Bool) (indent : Int) :
    Nat → List Char → Bool → Cursor → (List Char × Bool) × Cursor
  | 0, _, broken, c => (([], broken), c)
  | fuel + 1, spaces, broken, c =>
    let n := if c.isAt '#' then 0 else plainLength flow c.rest
    if n == 0 then (([], broken), c)
    else
      let text := c.rest.take n
      let ((more, broke), c) := plainSpaces (c.skip n)
      if more.isEmpty || c.isAt '#' || (!flow && (c.column : Int) < indent + 1) then
        ((spaces ++ text, broke), c)
      else
        let ((tail, broken), c) := plainFrom flow indent fuel more broke c
        ((spaces ++ text ++ tail, broken), c)

/-- A plain scalar in a block of some indentation, and whether the cursor is at
the start of a line behind it. -/
def plainScalar (flow : Bool) (indent : Int) (c : Cursor) : (Token × Bool) × Cursor :=
  let ((text, broken), c') := plainFrom flow indent (c.rest.length + 1) [] false c
  ((.scalar (String.ofList text) true, broken), c')

end Mailroom.Yaml
