import Mailroom.Mail.Outgoing
import Mailroom.Text.Blank
import Mailroom.Text.Lines
import Mailroom.Text.Utf8
/-!
  Mailroom.Mail.Letter
  ────────────────────────────────
  **LETTERS AS OCTETS.**

  Headers and contents are written in UTF-8.  A letter with two contents is a
  compound of alternatives, separated by a boundary that occurs in neither.
-/
namespace Mailroom.Mail

open Mailroom.Text

/-! ## §1. Contents. -/

/-- A body whose lines all end in a line feed. -/
def bodyOf (s : String) : String :=
  let cs := withLineFeeds s.toList
  String.ofList (if cs.getLast? == some '\n' then cs else cs ++ ['\n'])

/-- The content for a text and a page; nothing if there is neither. -/
def contentOf? (text html : Option String) : Option Content :=
  match text, html with
  | some t, some h => some (.both (bodyOf t) (bodyOf h))
  | some t, none => some (.text (bodyOf t))
  | none, some h => some (.page (bodyOf h))
  | none, none => none

namespace Content

/-- The media type of a content. -/
def mediaType : Content → String
  | text _ => "text/plain"
  | page _ => "text/html"
  | both _ _ => "multipart/alternative"

/-- The parts of a content with their media types. -/
def parts : Content → List (String × String)
  | text t => [("text/plain", t)]
  | page h => [("text/html", h)]
  | both t h => [("text/plain", t), ("text/html", h)]

end Content

/-! ## §2. Octets. -/

/-- The first of `part0`, `part1`, … that does not occur in a text. -/
def boundaryFor (s : String) : String :=
  let names := (List.range (s.length + 1)).map fun k => "part" ++ toString k
  (names.find? fun name => !contains s name).getD "part"

/-- A body behind the headers that describe it. -/
def described (mediaType body : String) : String :=
  "Content-Type: " ++ mediaType ++ "; charset=\"utf-8\"\n"
    ++ "Content-Transfer-Encoding: 8bit\n\n" ++ body

/-- A content behind the headers that describe it. -/
def Content.described : Content → String
  | text t => Mail.described "text/plain" t
  | page h => Mail.described "text/html" h
  | both t h =>
    let boundary := boundaryFor (t ++ h)
    let opening := "--" ++ boundary ++ "\n"
    "Content-Type: multipart/alternative; boundary=\"" ++ boundary ++ "\"\n\n"
      ++ opening ++ Mail.described "text/plain" t ++ "\n"
      ++ opening ++ Mail.described "text/html" h ++ "\n"
      ++ "--" ++ boundary ++ "--\n"

/-- A header line. -/
def headerLine (name : String) (h : Heading) : String :=
  name ++ ": " ++ String.ofList (withoutFinalLineEnd h.written.toList) ++ "\n"

/-- The letter as text. -/
def Letter.text (l : Letter) : String :=
  headerLine "From" l.sender ++ headerLine "To" l.addressees
    ++ ((l.cc.map (headerLine "Cc")).getD "")
    ++ headerLine "Subject" l.subject ++ "Date: " ++ l.date ++ "\n"
    ++ headerLine "Message-ID" l.messageId ++ "MIME-Version: 1.0\n" ++ l.content.described

/-- The octets of a letter. -/
def Letter.octets (l : Letter) : List UInt8 := encode l.text

end Mailroom.Mail
