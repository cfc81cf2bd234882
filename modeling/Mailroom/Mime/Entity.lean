import Mailroom.Mime.Field
import Mailroom.Mime.Parameter
/-!
  Mailroom.Mime.Entity
  ────────────────────────────────
  **MESSAGES AND THEIR PARTS.**

  An entity has a header and a body, which is octets or, for the types
  `multipart/…` and `message/…`, a list of entities.  Parts are separated by lines
  of two hyphens and the boundary; two more hyphens close the list.  The boundary
  of an outer entity ends all entities inside it.
-/
namespace Mailroom.Mime

open Mailroom.Text

/-! ## §1. Entities. -/

/-- The header of an entity with its media type. -/
structure Head where
  fields : List Field
  mediaType : String
  deriving Repr

/-- An entity: octets or parts behind a header. -/
inductive Entity where
  | leaf (head : Head) (content : List UInt8)
  | compound (head : Head) (parts : List Entity)
  deriving Repr

/-- The header of an entity. -/
def Entity.head : Entity → Head
  | leaf h _ => h
  | compound h _ => h

/-- The part of a media type before the slash. -/
def mainType (mediaType : String) : String := String.ofList (mediaType.toList.takeWhile (· ≠ '/'))

/-- The part of a media type behind the slash. -/
def subType (mediaType : String) : String :=
  String.ofList ((mediaType.toList.dropWhile (· ≠ '/')).drop 1)

/-- The header text of a field. -/
def Head.glyphs? (name : String) (h : Head) : Option Glyphs :=
  (fieldValue? name h.fields).map glyphsOf

/-- A parameter of the content type. -/
def contentParameter? (name : String) (fields : List Field) : Except HeaderFault (Option String) :=
  match fieldValue? "content-type" fields with
  | none => .ok none
  | some v => (contentTypeText (glyphsOf v)).map (parameter? name)

/-- The media type of an entity; without a content type it is a message inside a
digest and plain text elsewhere. -/
def mediaTypeOf (inDigest : Bool) (fields : List Field) : Except HeaderFault String :=
  match fieldValue? "content-type" fields with
  | none => .ok (if inDigest then "message/rfc822" else "text/plain")
  | some v => (contentTypeText (glyphsOf v)).map mediaType

/-- The boundary of an entity with parts. -/
def boundary? (fields : List Field) : Except HeaderFault (Option (List UInt8)) := do
  let value ← contentParameter? "boundary" fields
  return value.map fun b =>
    encodeChars (dropEndWhile isTrimmed (unquoted b.toList))

/-! ## §2. Boundary lines. -/

/-- What a line is to a list of parts: a line between two parts, the line that
closes the list, or neither. -/
inductive BoundaryLine where
  | between | closing | other
  deriving DecidableEq

/-- Whether a text is white space and one line end at most. -/
def isLineRest (l : Line) : Bool := ((withoutLineEnd l).dropWhile isWspByte).isEmpty

/-- What a line is to the list of parts with a boundary. -/
def boundaryLine (boundary : List UInt8) (l : Line) : BoundaryLine :=
  match dropPrefix? (45 :: 45 :: boundary) l with
  | none => .other
  | some rest =>
    match rest with
    | 45 :: 45 :: rest' => if isLineRest rest' then .closing else .other
    | _ => if isLineRest rest then .between else .other

/-! ## §3. Reading. -/

/-- The lines up to the first at which reading stops, and the others. -/
def untilStop (stops : Line → Bool) (ls : List Line) : List Line × List Line :=
  (ls.takeWhile (!stops ·), ls.dropWhile (!stops ·))

/-- The header lines at the front, and the lines behind the blank line that ends
them. -/
def splitHead (stops : Line → Bool) (ls : List Line) : List Line × List Line :=
  let isHead := fun l => !stops l && isHeaderLine l
  let rest := ls.dropWhile isHead
  (ls.takeWhile isHead, match rest with
    | l :: more => if !stops l && isBlankLine l then more else rest
    | [] => [])

/-- An entity without the line end that belongs to the boundary behind it: it is
taken from the last leaf that is not inside a list of parts. -/
def Entity.withoutFinalLineEnd (fuel : Nat) (e : Entity) : Entity :=
  match fuel, e with
  | 0, e => e
  | _, .leaf h content =>
    if mainType h.mediaType == "multipart" then .leaf h content
    else .leaf h (withoutLineEnd content)
  | fuel + 1, .compound h parts =>
    if mainType h.mediaType == "multipart" then .compound h parts
    else match parts.reverse with
      | last :: before => .compound h ((last.withoutFinalLineEnd fuel :: before).reverse)
      | [] => .compound h []

mutual

/-- Reads an entity up to a line at which reading stops.  Entities inside an
entity take at least one line each, `fuel` bounds their number. -/
def readEntity (fuel : Nat) (stops : Line → Bool) (inDigest : Bool) (ls : List Line) :
    Except HeaderFault (Entity × List Line) :=
  match fuel with
  | 0 => .ok (.leaf ⟨[], "text/plain"⟩ ls.flatten, [])
  | fuel + 1 => do
    let (headLines, ls) := splitHead stops ls
    let (fields, back) := fieldsFrom true none headLines
    let ls := back.toList ++ ls
    let type ← mediaTypeOf inDigest fields
    let head : Head := ⟨fields, type⟩
    if type == "message/delivery-status" then
      let (parts, rest) ← readBlocks fuel stops ls
      return (.compound head parts, rest)
    else if mainType type == "message" then
      let (inner, rest) ← readEntity fuel stops false ls
      return (.compound head [inner], rest)
    else if mainType type == "multipart" then
      let (content, rest) := untilStop stops ls
      match ← boundary? fields with
      | none => return (.leaf head content.flatten, rest)
      | some b =>
        let preamble := content.takeWhile (boundaryLine b · == .other)
        match content.drop preamble.length with
        | [] => return (.leaf head preamble.flatten, rest)
        | l :: _ =>
          if boundaryLine b l == .closing then return (.leaf head preamble.flatten, rest)
          else
            let (parts, rest) ←
              readParts fuel stops b (type == "multipart/digest") (ls.drop preamble.length)
            return (.compound head parts, rest)
    else
      let (content, rest) := untilStop stops ls
      return (.leaf head content.flatten, rest)

/-- Reads the parts of an entity from a boundary line on. -/
def readParts (fuel : Nat) (stops : Line → Bool) (boundary : List UInt8) (digest : Bool)
    (ls : List Line) : Except HeaderFault (List Entity × List Line) :=
  match fuel with
  | 0 => .ok ([], ls)
  | fuel + 1 =>
    match ls with
    | [] => .ok ([], [])
    | l :: more =>
      if stops l then .ok ([], ls)
      else match boundaryLine boundary l with
        | .closing => .ok ([], (untilStop stops more).2)
        | _ => do
          let more := more.dropWhile fun l => !stops l && boundaryLine boundary l != .other
          let inner := fun l => stops l || boundaryLine boundary l != .other
          let (part, rest) ← readEntity fuel inner digest more
          let (parts, rest) ← readParts fuel stops boundary digest rest
          return (part.withoutFinalLineEnd (ls.length + 1) :: parts, rest)

/-- Reads the blocks of header lines of a delivery status. -/
def readBlocks (fuel : Nat) (stops : Line → Bool) (ls : List Line) :
    Except HeaderFault (List Entity × List Line) :=
  match fuel with
  | 0 => .ok ([], ls)
  | fuel + 1 => do
    let (block, rest) ← readEntity fuel (fun l => stops l || isBlankLine l) false ls
    match rest with
    | [] => return ([block], [])
    | l :: more =>
      if stops l then return ([block], rest)
      else match more with
        | [] => return ([block], [])
        | m :: _ =>
          if stops m then return ([block], more)
          else
            let (blocks, rest) ← readBlocks fuel stops more
            return (block :: blocks, rest)

end

/-- Reads a message. -/
def Entity.ofOctets (bs : List UInt8) : Except HeaderFault Entity := do
  let ls := linesOf bs
  return (← readEntity (2 * ls.length + 4) (fun _ => false) false ls).1

end Mailroom.Mime
