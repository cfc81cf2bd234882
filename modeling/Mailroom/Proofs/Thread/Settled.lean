import Mailroom.Proofs.Thread.Markers
/-!
  Mailroom.Proofs.Thread.Settled
  ────────────────────────────────
  **WHICH SUBJECTS ARE SETTLED BY BEING NORMALIZED ONCE.**

  The ends of a subject are trimmed of more than the white space that may stand in front
  of a marker.  A marker behind an information separator is kept by the first
  normalization, which trims the separator, and is taken by the second.  Such a marker is
  `Hidden`.  Nothing else comes to light: trimming uncovers no other marker, and no letter
  above ASCII becomes a letter of a marker word.

      exists_marker_lowerChars — a text has a marker in front when it has one in lower case
      exists_marker_trimWhile  — what trimming uncovers
      settled_unless_hidden    — when one normalization is enough
-/
namespace Mailroom.Thread

open Mailroom.Text

variable {cs m rest : List Char} {c d : Char} {ds : List Char}

/-! ## §1. The characters of markers. -/

/-- The letters of the marker words, and the colon. -/
def markerLetters : List Char := [':', 'r', 'e', 'f', 'w', 'd', 'a']

/-- The characters of which markers are made. -/
def IsMarking (c : Char) : Prop := isBlank c = true ∨ lowerAscii c ∈ markerLetters

theorem IsMarker.isMarking (h : IsMarker m) : ∀ c ∈ m, IsMarking c := by
  obtain ⟨hbefore, hword, hbetween, hafter⟩ := h
  have hletters : ∀ w ∈ markerWords, ∀ d ∈ w, d ∈ markerLetters := by
    simp [markerWords, markerLetters]
  intro c hc
  simp only [List.mem_append, List.mem_cons] at hc
  rcases hc with hc | hc | hc | rfl | hc
  · exact .inl (hbefore c hc)
  · exact .inr (hletters _ hword _ (List.mem_map_of_mem hc))
  · exact .inl (hbetween c hc)
  · exact .inr (by decide)
  · exact .inl (hafter c hc)

theorem lt_of_markerLetter (h : lowerAscii c ∈ markerLetters) : c.toNat < 128 := by
  by_contra hge
  rw [lowerAscii_of_ge (by omega)] at h
  have hascii : ∀ d ∈ markerLetters, d.toNat < 128 := by simp [markerLetters]
  exact hge (hascii c h)

/-- A character of a marker becomes an ASCII letter in lower case, or stays. -/
theorem IsMarking.form (h : IsMarking c) (hform : Form c ds) : ds = [lowerAscii c] := by
  rcases hform.cases with ⟨hds, -⟩ | ⟨hsolid, -, -⟩
  · exact hds
  · have hge := ge_of_solid hsolid
    rcases h with hblank | hletter
    · have htrimmed := isTrimmed_of_solid hsolid
      rw [isTrimmed_of_isBlank hblank] at htrimmed
      cases htrimmed
    · have hlt := lt_of_markerLetter hletter
      omega

/-- No plain character is one of a marker. -/
theorem IsMarking.not_plain (h : IsMarking d) : ¬ Plain d := by
  rintro ⟨-, hsolid, hplain⟩
  rcases h with hblank | hletter
  · rw [isTrimmed_of_isBlank hblank] at hsolid
    cases hsolid
  · rcases hplain with rfl | rfl | hge
    · exact absurd hletter (by decide)
    · exact absurd hletter (by decide)
    · have hlt := lt_of_markerLetter hletter
      omega

/-! ## §2. Markers in lower case. -/

theorem eq_colon_of_lowerAscii (h : lowerAscii c = ':') : c = ':' := by
  have hlt : c.toNat < 128 := lt_of_markerLetter (by rw [h]; decide)
  exact of_ascii (P := fun c => lowerAscii c = ':' → c = ':') (by decide) hlt h

/-- The letter case of a marker does not matter. -/
theorem isMarker_map_lowerAscii : IsMarker (m.map lowerAscii) ↔ IsMarker m := by
  have hblank : ∀ {b : List Char},
      (∀ c ∈ b.map lowerAscii, isBlank c = true) ↔ ∀ c ∈ b, isBlank c = true := by simp
  have hwords : ∀ {w : List Char}, (w.map lowerAscii).map lowerAscii = w.map lowerAscii := by simp
  constructor
  · intro h
    generalize hm : m.map lowerAscii = lowered at h
    obtain ⟨hbefore, hword, hbetween, hafter⟩ := h
    obtain ⟨before, m₁, rfl, rfl, hm₁⟩ := List.map_eq_append_iff.1 hm
    obtain ⟨word, m₂, rfl, rfl, hm₂⟩ := List.map_eq_append_iff.1 hm₁
    obtain ⟨between, m₃, rfl, rfl, hm₃⟩ := List.map_eq_append_iff.1 hm₂
    obtain ⟨colon, after, rfl, hcolon, rfl⟩ := List.map_eq_cons_iff.1 hm₃
    obtain rfl := eq_colon_of_lowerAscii hcolon
    exact .mk (hblank.1 hbefore) (hwords ▸ hword) (hblank.1 hbetween) (hblank.1 hafter)
  · rintro ⟨hbefore, hword, hbetween, hafter⟩
    simp only [List.map_append, List.map_cons]
    exact .mk (hblank.2 hbefore) (hwords.symm ▸ hword) (hblank.2 hbetween) (hblank.2 hafter)

theorem flatten_forms_marking {forms : List (List Char)} (hm : ∀ c ∈ m, IsMarking c)
    (h : List.Forall₂ Form (m ++ rest) forms) :
    ∃ rest', forms.flatten = m.map lowerAscii ++ rest' := by
  induction m generalizing forms with
  | nil => exact ⟨_, rfl⟩
  | cons c m ih =>
    cases h with
    | cons hform hforms =>
      obtain ⟨rest', hrest⟩ := ih (fun d hd => hm d (List.mem_cons_of_mem c hd)) hforms
      refine ⟨rest', ?_⟩
      rw [(hm c List.mem_cons_self).form hform, List.flatten_cons, hrest]
      rfl

theorem exists_marking_forms {forms : List (List Char)} (hm : ∀ d ∈ m, IsMarking d)
    (h : List.Forall₂ Form cs forms) (hforms : forms.flatten = m ++ rest) :
    ∃ m' rest', cs = m' ++ rest' ∧ m'.map lowerAscii = m := by
  induction m generalizing cs forms with
  | nil => exact ⟨[], cs, rfl, rfl⟩
  | cons d m ih =>
    cases h with
    | nil => cases hforms
    | @cons c ds cs forms hform hrest =>
      rcases hform.cases with ⟨rfl, -⟩ | ⟨-, hne, hplain⟩
      · obtain ⟨hd, hforms⟩ := List.cons.inj hforms
        obtain ⟨m', rest', rfl, rfl⟩ :=
          ih (fun x hx => hm x (List.mem_cons_of_mem d hx)) hrest hforms
        exact ⟨c :: m', rest', rfl, by rw [List.map_cons, hd]⟩
      · -- The form would begin with a character of a marker.
        obtain ⟨x, ds, rfl⟩ := List.exists_cons_of_ne_nil hne
        obtain ⟨rfl, -⟩ := List.cons.inj hforms
        exact absurd (hplain x List.mem_cons_self) (hm x List.mem_cons_self).not_plain

/-- **A text has a marker in front when it has one in lower case.** -/
theorem exists_marker_lowerChars :
    (∃ m rest, IsMarker m ∧ lowerChars cs = m ++ rest) ↔ ∃ m rest, IsMarker m ∧ cs = m ++ rest := by
  obtain ⟨forms, hforms, heq⟩ := lowerChars_forms cs
  constructor
  · rintro ⟨m, rest, hm, hcs⟩
    obtain ⟨m', rest', hcs', rfl⟩ := exists_marking_forms hm.isMarking hforms (heq.symm.trans hcs)
    exact ⟨m', rest', isMarker_map_lowerAscii.1 hm, hcs'⟩
  · rintro ⟨m, rest, hm, rfl⟩
    obtain ⟨rest', hrest⟩ := flatten_forms_marking hm.isMarking hforms
    exact ⟨_, rest', isMarker_map_lowerAscii.2 hm, heq.trans hrest⟩

theorem afterMarker?_eq_none_iff :
    afterMarker? cs = none ↔ ¬ ∃ m rest, IsMarker m ∧ cs = m ++ rest := by
  constructor
  · rintro h ⟨m, rest, hm, rfl⟩
    rw [afterMarker?_append hm] at h
    cases h
  · intro h
    cases hcs : afterMarker? cs with
    | none => rfl
    | some rest =>
      obtain ⟨m, hm, hsplit, -⟩ := exists_marker hcs
      exact absurd ⟨m, rest, hm, hsplit⟩ h

/-! ## §3. Hidden markers. -/

/-- A marker behind characters that are trimmed. -/
def Hidden (cs : List Char) : Prop :=
  ∃ w m rest, (∀ c ∈ w, isTrimmed c = true) ∧ IsMarker m ∧ cs = w ++ m ++ rest

/-- **Trimming uncovers the hidden markers.** -/
theorem exists_marker_trimWhile :
    (∃ m rest, IsMarker m ∧ trimWhile isTrimmed cs = m ++ rest) ↔ Hidden cs := by
  constructor
  · rintro ⟨m, rest, hm, htrim⟩
    obtain ⟨w, post, hcs, hw, -⟩ := trimWhile_append isTrimmed cs
    exact ⟨w, m, rest ++ post, hw, hm, by rw [hcs, htrim]; simp⟩
  · rintro ⟨w, _, rest, hw, ⟨hbefore, hword, hbetween, hafter⟩, rfl⟩
    rename_i before word between after
    obtain ⟨c, word, rfl, hc⟩ := exists_cons_of_word hword
    -- The colon stays, and so does the marker word in front of it.
    have hstart : (w ++ (before ++ (c :: word ++ between))).dropWhile isTrimmed
        = c :: word ++ between := by
      rw [List.dropWhile_append_of_pos hw,
        List.dropWhile_append_of_pos fun x hx => isTrimmed_of_isBlank (hbefore x hx),
        List.cons_append, List.dropWhile_cons_of_neg (by simp [hc])]
    have hnone : ∀ x ∈ ([] : List Char), isBlank x = true := List.forall_mem_nil _
    refine ⟨_, dropEndWhile isTrimmed (after ++ rest), .mk hnone hword hbetween hnone, ?_⟩
    calc trimWhile isTrimmed (w ++ (before ++ (c :: word ++ (between ++ ':' :: after))) ++ rest)
      _ = trimWhile isTrimmed
            ((w ++ (before ++ (c :: word ++ between))) ++ ':' :: (after ++ rest)) := by
          simp
      _ = _ := by
          rw [trimWhile_around (by decide), hstart]
          simp

/-- Where there are no information separators, no marker is hidden behind them. -/
theorem not_hidden_stripMarkers (h : ∀ c ∈ cs, isSeparator c = false) :
    ¬ Hidden (stripMarkers cs) := by
  rintro ⟨w, m, rest, hw, hm, hcs⟩
  have hblank : ∀ c ∈ w, isBlank c = true := by
    intro c hc
    have hmem : c ∈ cs := (stripMarkers_suffix cs).subset (by rw [hcs]; simp [hc])
    have htrimmed := hw c hc
    rwa [isTrimmed, h c hmem, Bool.or_false] at htrimmed
  -- The white space belongs to the marker, which would have been taken.
  have hmarker : IsMarker (w ++ m) := by
    obtain ⟨hbefore, hword, hbetween, hafter⟩ := hm
    rw [← List.append_assoc]
    exact .mk (fun c hc => (List.mem_append.1 hc).elim (hblank c) (hbefore c)) hword hbetween hafter
  exact afterMarker?_eq_none_iff.1 (afterMarker?_stripMarkers cs) ⟨_, rest, hmarker, hcs⟩

/-! ## §4. Normalizing twice. -/

/-- Normalizing again takes the markers of the trimmed text, in lower case. -/
theorem normalize_normalize_iff (subject : String) :
    normalize (normalize subject) = normalize subject ↔
      afterMarker? (lowerChars (trimWhile isTrimmed (stripMarkers subject.toList))) = none := by
  have htrimmed := (trimmed_trimWhile isTrimmed (stripMarkers subject.toList)).lowerChars
  rw [← String.toList_inj, toList_normalize, toList_normalize]
  generalize hlow : lowerChars (trimWhile isTrimmed (stripMarkers subject.toList)) = low
    at htrimmed ⊢
  constructor
  · intro h
    by_contra hsome
    obtain ⟨rest, hrest⟩ := Option.ne_none_iff_exists'.1 hsome
    have hpart := trimWhile_infix isTrimmed (stripMarkers low)
    have hkept : ∀ c ∈ trimWhile isTrimmed (stripMarkers low), IsLow c := fun c hc =>
      isLow_lowerChars _ c (hlow ▸ (stripMarkers_suffix low).subset (hpart.subset hc))
    -- Without its marker the text is shorter, and lower-casing it again changes nothing.
    rw [lowerChars, lowerFrom_of_isLow hkept] at h
    have hshorter : (stripMarkers low).length ≤ rest.length := by
      rw [stripMarkers_of_some hrest]
      exact (stripMarkers_suffix rest).length_le
    have hlt := length_afterMarker?_lt hrest
    have hle := hpart.length_le
    rw [h] at hle
    omega
  · intro h
    rw [stripMarkers_of_none h, htrimmed.trimWhile_eq, ← hlow, lowerChars_lowerChars]

/-- **One normalization is enough unless a marker is hidden** in what is left behind the
markers at the front.  A subject without information separators hides none. -/
theorem settled_unless_hidden (subject : String) :
    (normalize (normalize subject) = normalize subject ↔ ¬ Hidden (stripMarkers subject.toList)) ∧
      ((∀ c ∈ subject.toList, isSeparator c = false) →
        normalize (normalize subject) = normalize subject) := by
  have hiff : normalize (normalize subject) = normalize subject ↔
      ¬ Hidden (stripMarkers subject.toList) := by
    rw [normalize_normalize_iff, afterMarker?_eq_none_iff, exists_marker_lowerChars,
      exists_marker_trimWhile]
  exact ⟨hiff, fun h => hiff.2 (not_hidden_stripMarkers h)⟩

/-- A subject without information separators, with a marker that is taken at once. -/
theorem settled_hello :
    (∀ c ∈ "\tRe: Hello".toList, isSeparator c = false) ∧
      normalize (normalize "\tRe: Hello") = normalize "\tRe: Hello" := by
  have hnone : ∀ c ∈ "\tRe: Hello".toList, isSeparator c = false := by simp [isSeparator]
  exact ⟨hnone, (settled_unless_hidden "\tRe: Hello").2 hnone⟩

/-- A marker behind U+001C is taken by the second normalization only. -/
theorem separator_hides_marker :
    normalize "\x1cRe: hello" = "re: hello" ∧ normalize (normalize "\x1cRe: hello") = "hello" ∧
      ¬ ∀ subject, normalize (normalize subject) = normalize subject := by
  have honce : normalize "\x1cRe: hello" = "re: hello" := by decide +kernel
  have htwice : normalize "re: hello" = "hello" := by decide +kernel
  refine ⟨honce, by rw [honce, htwice], fun h => ?_⟩
  have hsame := h "\x1cRe: hello"
  rw [honce, htwice] at hsame
  exact absurd hsame (by decide)

end Mailroom.Thread
