import Mailroom.Mime.Entity
import Mailroom.Text.Uuencode
import Mailroom.Text.Entity
/-!
  Mailroom.Mime.Body
  ────────────────────────────────
  **THE TEXT OF A MESSAGE.**

  The text is the first plain text part that is no attachment, or else the first
  such HTML part without its tags.  Of related parts only the root is looked at.
  A text whose character set is unknown cannot be read.
-/
namespace Mailroom.Mime

open Mailroom.Text

/-! ## §1. The part that holds the text. -/

/-- Whether an entity is an attachment. -/
def Head.isAttachment (h : Head) : Except HeaderFault Bool :=
  match h.glyphs? "content-disposition" with
  | none => .ok false
  | some v => do
    match ← disposition? v with
    | some d => return lower (trim (shown d)) == "attachment"
    | none => return false

/-- Whether an entity has a content id. -/
def hasContentId (id : String) (e : Entity) : Bool :=
  match e.head.glyphs? "content-id" with
  | some v => shown (unstructured v) == id
  | none => false

/-- Whether an entity has parts. -/
def Entity.hasParts : Entity → Bool
  | .leaf _ _ => false
  | .compound _ _ => true

/-- The parts of an entity. -/
def Entity.parts : Entity → List Entity
  | .leaf _ _ => []
  | .compound _ parts => parts

/-- The root of related parts: the one that the header names, or else the
first. -/
def relatedRoot? (h : Head) (parts : List Entity) : Except HeaderFault (Option Entity) := do
  match ← contentParameter? "start" h.fields with
  | none => return parts.head?
  | some id =>
    if id == "" then return parts.head?
    else return (parts.find? (hasContentId id)).or parts.head?

mutual

/-- The first text of a subtype in an entity; `inParts` if the message has parts
at all.  Entities inside an entity are smaller, `fuel` bounds their depth. -/
def findText? (fuel : Nat) (subtype : String) (inParts : Bool) (e : Entity) :
    Except HeaderFault (Option (Head × List UInt8)) :=
  match fuel with
  | 0 => .ok none
  | fuel + 1 => do
    if ← e.head.isAttachment then return none
    let type := e.head.mediaType
    if mainType type == "text" then
      match e with
      | .leaf h content => return if subType type == subtype then some (h, content) else none
      | .compound _ _ => return none
    else if mainType type != "multipart" || !inParts then return none
    else if subType type != "related" then findFirst? fuel subtype inParts e.parts
    else
      match ← relatedRoot? e.head e.parts with
      | some root => findText? fuel subtype inParts root
      | none =>
        match e with
        | .leaf _ (_ :: _) => .error .noParts
        | _ => return none

/-- The first text of a subtype in a list of entities. -/
def findFirst? (fuel : Nat) (subtype : String) (inParts : Bool) (es : List Entity) :
    Except HeaderFault (Option (Head × List UInt8)) :=
  match fuel, es with
  | 0, _ => .ok none
  | _, [] => .ok none
  | fuel + 1, e :: es => do
    match ← findText? fuel subtype inParts e with
    | some found => return some found
    | none => findFirst? fuel subtype inParts es

end

/-! ## §2. Its content. -/

/-- The octets of a leaf with its transfer encoding undone. -/
def decodedContent (h : Head) (content : List UInt8) : Except HeaderFault (List UInt8) := do
  let encoding ← match h.glyphs? "content-transfer-encoding" with
    | some v => (transferEncodingText v).map lower
    | none => pure ""
  if encoding == "quoted-printable" then return QuotedPrintable.decode content
  else if encoding == "base64" then return Base64.decode (withoutLineEnds content)
  else if ["x-uuencode", "uuencode", "uue", "x-uue"].contains encoding then
    return (Uuencode.decode? content).getD content
  else return content

/-- The text of a leaf; nothing if its character set is unknown. -/
def leafText? (h : Head) (content : List UInt8) : Except HeaderFault (Option String) := do
  let bs ← decodedContent h content
  let name := (← contentParameter? "charset" h.fields).getD "ASCII"
  if name.toList.contains (Char.ofNat 0) then return none
  else return (Charset.ofName? name).map (·.text bs)

/-! ## §3. HTML as text. -/

/-- The text behind a tag, if one starts behind this `<`. -/
def behindTag? (cs : List Char) : Option (List Char) :=
  match cs.takeWhile (· ≠ '>'), cs.dropWhile (· ≠ '>') with
  | _ :: _, _ :: rest => some rest
  | _, _ => none

/-- A text with a space for each tag; the first `skip` characters are part of
one. -/
def withoutTagsFrom : Nat → List Char → List Char
  | _, [] => []
  | skip + 1, _ :: cs => withoutTagsFrom skip cs
  | 0, c :: cs =>
    if c == '<' then
      match behindTag? cs with
      | some rest => ' ' :: withoutTagsFrom (cs.length - rest.length) cs
      | none => c :: withoutTagsFrom 0 cs
    else c :: withoutTagsFrom 0 cs

/-- A text with one space for each run of white space; `inBlank` if a blank
precedes. -/
def oneSpace : Bool → List Char → List Char
  | _, [] => []
  | inBlank, c :: cs =>
    if isBlank c then (if inBlank then oneSpace true cs else ' ' :: oneSpace true cs)
    else c :: oneSpace false cs

/-- HTML as text: no tags, references resolved, one space between words. -/
def htmlText? (html : String) : Option String :=
  (resolveReferences? (withoutTagsFrom 0 html.toList)).map fun cs =>
    String.ofList (trimWhile isTrimmed (oneSpace false cs))

/-- A fault of the header inside the body leaves the body unreadable; only a
compound without parts stops the reader. -/
def unreadable {α : Type} (r : Except HeaderFault (Option α)) : Except HeaderFault (Option α) :=
  match r with
  | .error .noParts => .error .noParts
  | .error _ => .ok none
  | r => r

/-- The text of a message; empty if it has none or cannot be read. -/
def Entity.bodyText (e : Entity) (size : Nat) : Except HeaderFault String := do
  let text ← unreadable do
    match ← findText? size "plain" e.hasParts e with
    | some (h, content) => leafText? h content
    | none =>
      match ← findText? size "html" e.hasParts e with
      | some (h, content) => return (← leafText? h content).bind htmlText?
      | none => return none
  return text.getD ""

end Mailroom.Mime
