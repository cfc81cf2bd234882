import Mailroom.Mime.Address
/-!
  Mailroom.Mime.MessageId
  ────────────────────────────────
  **MESSAGE IDENTIFIERS.**

      <left@right>

  An identifier is shown as it is written, up to where it ends; what is none is
  shown as unstructured text.
-/
namespace Mailroom.Mime

/-- Reads the part before the at sign. -/
def idLeft : Reader Glyphs := fun gs => do
  let (token, rest) ← orElse dotAtomText (fun gs => do
    let (parts, rest) ← obsoleteLocalPart gs
    return (.node parts, rest)) gs
  return (token.written, rest)

/-- Reads text in brackets that is kept as it stands. -/
def bracketed : Reader Glyphs := fun gs =>
  match gs with
  | g :: r =>
    if g.is '[' then
      let (text, rest) := ptext ['[', ']'] r
      match rest with
      | h :: rest =>
        if h.is ']' then .ok (glyphs "[" ++ text ++ glyphs "]", rest) else .error .mismatch
      | [] => .error .mismatch
    else .error .mismatch
  | [] => .error .mismatch

/-- Reads a domain as it is written. -/
def writtenDomain : Reader Glyphs := fun gs => do
  let (_, rest) ← domain gs
  return (gs.take (gs.length - rest.length), rest)

/-- Reads the part behind the at sign. -/
def idRight : Reader Glyphs :=
  orElse (fun gs => do
    let (token, rest) ← dotAtomText gs
    return (token.written, rest)) (orElse bracketed writtenDomain)

/-- A text without the closing bracket at its front. -/
def dropClosing (gs : Glyphs) : Glyphs :=
  match gs with
  | g :: r => if g.is '>' then r else gs
  | [] => []

/-- Reads an identifier behind its opening bracket. -/
def idBehind : Reader Glyphs := fun gs => do
  let (left, rest) ← idLeft gs
  match rest with
  | g :: r =>
    if g.is '@' then
      let (right, rest) ← idRight r
      let (after, rest) := takeCfws (dropClosing rest)
      return (glyphs "<" ++ left ++ glyphs "@" ++ right ++ glyphs ">" ++ after.getD [], rest)
    else if g.is '>' then return (glyphs "<" ++ left ++ glyphs ">", r)
    else return (glyphs "<" ++ left, rest)
  | [] => return (glyphs "<" ++ left, [])

/-- Reads an identifier. -/
def identifier : Reader Glyphs := fun gs =>
  let (before, gs) := takeCfws gs
  match gs with
  | g :: r =>
    if g.is '<' then do
      let (id, rest) ← idBehind r
      return (before.getD [] ++ id, rest)
    else .error .mismatch
  | [] => .error .mismatch

/-- The header of an identifier in the form in which it is shown. -/
def messageId (gs : Glyphs) : Except HeaderFault Glyphs :=
  match identifier gs with
  | .ok (id, _) => .ok id
  | .error .mismatch => .ok (unstructured gs)
  | .error (.fault f) => .error f

end Mailroom.Mime
