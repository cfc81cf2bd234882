import Mailroom.Text.Blank
import Mailroom.Text.Case
/-!
  Mailroom.Thread.Subject
  ────────────────────────────────
  **SUBJECT LINES WITHOUT THEIR REPLY MARKERS.**

  A reply marker is one of the words re, fwd, fw and aw in any letter case,
  followed by a colon, with white space allowed around both.  `normalize` takes
  the markers off the front one after the other, then trims and lower-cases what
  is left, so that a reply and the message it answers compare equal.
-/
namespace Mailroom.Thread

open Mailroom.Text

/-! ## §1. One marker. -/

/-- The text without its leading white space. -/
def skipBlanks (cs : List Char) : List Char := cs.dropWhile isBlank

/-- The words of which markers are made. -/
def markerWords : List (List Char) :=
  ["re".toList, "fwd".toList, "fw".toList, "aw".toList]

/-- The rest after `word` in any letter case and a colon, white space around the
colon aside. -/
def afterWord? (word cs : List Char) : Option (List Char) :=
  if (cs.take word.length).map lowerAscii == word then
    match skipBlanks (cs.drop word.length) with
    | ':' :: rest => some (skipBlanks rest)
    | _ => none
  else none

/-- The rest after one marker, if the text starts with one. -/
def afterMarker? (cs : List Char) : Option (List Char) :=
  markerWords.findSome? fun word => afterWord? word (skipBlanks cs)

theorem length_skipBlanks_le (cs : List Char) : (skipBlanks cs).length ≤ cs.length :=
  (List.dropWhile_sublist isBlank).length_le

theorem length_afterWord?_lt {word cs rest : List Char} (h : afterWord? word cs = some rest) :
    rest.length < cs.length := by
  unfold afterWord? at h
  split at h
  · split at h
    case h_1 r hr =>
      have hd := length_skipBlanks_le (cs.drop word.length)
      have hs := length_skipBlanks_le r
      rw [hr] at hd
      simp only [List.length_cons, List.length_drop] at hd
      obtain rfl : skipBlanks r = rest := Option.some.inj h
      omega
    case h_2 => cases h
  · cases h

/-- A marker takes at least its colon with it. -/
theorem length_afterMarker?_lt {cs rest : List Char} (h : afterMarker? cs = some rest) :
    rest.length < cs.length := by
  obtain ⟨word, -, hw⟩ := List.exists_of_findSome?_eq_some h
  exact Nat.lt_of_lt_of_le (length_afterWord?_lt hw) (length_skipBlanks_le cs)

/-! ## §2. All markers. -/

/-- The text after its longest leading sequence of markers. -/
def stripMarkers (cs : List Char) : List Char :=
  match _h : afterMarker? cs with
  | none => cs
  | some rest => stripMarkers rest
termination_by cs.length
decreasing_by exact length_afterMarker?_lt _h

/-- A subject as it is compared: no leading markers, trimmed, lower case. -/
def normalize (subject : String) : String :=
  lower (trim (String.ofList (stripMarkers subject.toList)))

end Mailroom.Thread
