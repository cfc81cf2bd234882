import Mathlib.Data.List.Basic
import Mailroom.Proofs.Text.Utf8
import Mailroom.Text.Blank
/-!
  Mailroom.Proofs.Text.Words
  ────────────────────────────────
  **WORDS WITH SPACES BETWEEN THEM ARE READ BACK.**

  A word is a run without blanks that is not empty.  It ends where a blank stands or the
  text is over, so words with one space between them are the runs of the whole.

      splitRuns_append      — a word in front of a text that does not go on with it
      byteWords_intercalate — words of octets with spaces between them
      isByteWord_encode     — a word of characters is one of octets
-/
namespace Mailroom.Text

section

variable {α : Type} {p : α → Bool} {w rest : List α}

theorem splitRuns_cons (p : α → Bool) (x : α) (xs : List α) : splitRuns p (x :: xs) =
    if p x then splitRuns p xs
    else match xs, splitRuns p xs with
      | y :: _, run :: runs => if p y then [x] :: run :: runs else (x :: run) :: runs
      | _, runs => [x] :: runs :=
  splitRuns.eq_def p (x :: xs)

theorem splitRuns_blank {x : α} (h : p x = true) :
    splitRuns p (x :: rest) = splitRuns p rest := by
  rw [splitRuns_cons, if_pos h]

/-- A word of one element ends where the text does or a blank follows. -/
theorem splitRuns_single {x : α} (hx : p x = false) (hrest : ∀ y ∈ rest.head?, p y = true) :
    splitRuns p (x :: rest) = [x] :: splitRuns p rest := by
  rw [splitRuns_cons, hx, if_neg Bool.false_ne_true]
  split
  next y ys run runs hruns => rw [if_pos (hrest y rfl), hruns]
  next => rfl

/-- A word grows by an element in front of it. -/
theorem splitRuns_grow {x y : α} {run : List α} {runs : List (List α)} (hx : p x = false)
    (hy : p y = false) (h : splitRuns p (y :: rest) = run :: runs) :
    splitRuns p (x :: y :: rest) = (x :: run) :: runs := by
  rw [splitRuns_cons, hx, if_neg Bool.false_ne_true, h]
  exact if_neg (by rw [hy]; exact Bool.false_ne_true)

/-- **A word is read up to where it ends**, by induction on its elements. -/
theorem splitRuns_append (hne : w ≠ []) (hw : ∀ x ∈ w, p x = false)
    (hrest : ∀ y ∈ rest.head?, p y = true) :
    splitRuns p (w ++ rest) = w :: splitRuns p rest := by
  induction w with
  | nil => exact absurd rfl hne
  | cons x w ih =>
    have hx := hw x List.mem_cons_self
    cases w with
    | nil => exact splitRuns_single hx hrest
    | cons y w =>
      have hy := hw y (List.mem_cons_of_mem x List.mem_cons_self)
      exact splitRuns_grow hx hy
        (ih (List.cons_ne_nil y w) fun z hz => hw z (List.mem_cons_of_mem x hz))

end

/-- A word of octets: not empty and without blanks. -/
structure IsByteWord (w : List UInt8) : Prop where
  nonempty : w ≠ []
  solid : ∀ b ∈ w, isByteBlank b = false

/-- **Words with one space between them are read back.** -/
theorem byteWords_intercalate {ws : List (List UInt8)} (h : ∀ w ∈ ws, IsByteWord w) :
    byteWords ([32].intercalate ws) = ws := by
  unfold byteWords
  induction ws with
  | nil => rfl
  | cons w ws ih =>
    have hw := h w List.mem_cons_self
    have hws := fun v hv => h v (List.mem_cons_of_mem w hv)
    cases ws with
    | nil =>
      have hlast : splitRuns isByteBlank (w ++ []) = [w] :=
        splitRuns_append hw.nonempty hw.solid nofun
      rw [List.intercalate_singleton]
      rwa [List.append_nil] at hlast
    | cons v ws =>
      rw [List.intercalate_cons_cons, List.append_assoc, List.singleton_append,
        splitRuns_append hw.nonempty hw.solid (by rintro y ⟨⟩; rfl),
        splitRuns_blank rfl, ih hws]

theorem mem_intercalate {b : UInt8} {ws : List (List UInt8)} (h : b ∈ [32].intercalate ws) :
    b = 32 ∨ ∃ w ∈ ws, b ∈ w := by
  induction ws with
  | nil => cases h
  | cons w ws ih =>
    cases ws with
    | nil =>
      rw [List.intercalate_singleton] at h
      exact .inr ⟨w, List.mem_cons_self, h⟩
    | cons v ws =>
      rw [List.intercalate_cons_cons, List.append_assoc, List.mem_append, List.mem_append,
        List.mem_singleton] at h
      rcases h with hw | hspace | hrest
      · exact .inr ⟨w, List.mem_cons_self, hw⟩
      · exact .inl hspace
      · obtain hspace | ⟨u, hu, hb⟩ := ih hrest
        · exact .inl hspace
        · exact .inr ⟨u, List.mem_cons_of_mem w hu, hb⟩

/-- A word of characters is a word of octets, for the blanks of octets are ASCII. -/
theorem isByteWord_encode {s : String} (hne : s ≠ "") (h : ∀ c ∈ s.toList, isBlank c = false) :
    IsByteWord (encode s) where
  nonempty := encode_ne_nil hne
  solid b hb := by
    by_contra hblank
    rw [Bool.not_eq_false, isByteBlank, Bool.or_eq_true, Bool.and_eq_true, decide_eq_true_eq,
      decide_eq_true_eq, beq_iff_eq, UInt8.le_iff_toNat_le, UInt8.le_iff_toNat_le,
      ← UInt8.toNat_inj] at hblank
    have hcode : 9 ≤ b.toNat ∧ b.toNat ≤ 13 ∨ b.toNat = 32 := hblank
    obtain ⟨c, hc, heq⟩ := mem_encodeChars hb (by omega)
    have hsolid : isBlank c = true := by
      simp only [isBlank, heq, Bool.or_eq_true, Bool.and_eq_true, decide_eq_true_eq, beq_iff_eq]
      omega
    rw [h c hc] at hsolid
    cases hsolid

end Mailroom.Text
