import Mathlib.Data.List.Infix
import Mailroom.Proofs.Text.Lower
import Mailroom.Thread.Subject
/-!
  Mailroom.Proofs.Thread.Markers
  ────────────────────────────────
  **REPLY MARKERS MAKE NO DIFFERENCE TO A SUBJECT.**

  A marker is white space, a marker word in any letter case, white space, a colon and
  white space; a `Chain` is any number of markers one after the other.  The white space
  behind a marker is taken as far as it goes, so a marker may take some of what follows
  it.  That is white space at the front of the rest, which makes no difference to the
  markers that come next, and the ends of what is left are trimmed anyway.

      afterMarker?_append, exists_marker — what is read as a marker
      stripMarkers_passes                — the markers are taken one after the other
      stripMarkers_leaves                — what is left follows the longest chain
      normalize_chain                    — a chain in front of a subject is not seen
-/
namespace Mailroom.Thread

open Mailroom.Text

/-! ## §1. Markers and chains. -/

/-- A reply marker. -/
inductive IsMarker : List Char → Prop
  | mk {before word between after : List Char} (hbefore : ∀ c ∈ before, isBlank c = true)
      (hword : word.map lowerAscii ∈ markerWords) (hbetween : ∀ c ∈ between, isBlank c = true)
      (hafter : ∀ c ∈ after, isBlank c = true) :
      IsMarker (before ++ (word ++ (between ++ ':' :: after)))

/-- Markers one after the other. -/
inductive Chain : List Char → Prop
  | nil : Chain []
  | cons {m chain : List Char} (first : IsMarker m) (rest : Chain chain) : Chain (m ++ chain)

/-- What `chain` leaves of a text is `rest`, and no chain takes more. -/
structure Leaves (cs chain rest : List Char) : Prop where
  markers : Chain chain
  split : cs = chain ++ rest
  longest : ∀ chain', Chain chain' → chain' <+: cs → chain' <+: chain

/-- A text without the marker at its front, or as it is when there is none. -/
def pass (cs : List Char) : List Char := (afterMarker? cs).getD cs

/-- Passes over a text until one changes nothing; every other pass makes it shorter. -/
inductive Passes : List Char → List Char → Prop
  | stop {cs : List Char} (same : pass cs = cs) : Passes cs cs
  | again {cs rest : List Char} (shorter : (pass cs).length < cs.length)
      (next : Passes (pass cs) rest) : Passes cs rest

/-! ## §2. One marker. -/

section

variable {cs rest m : List Char}

theorem skipBlanks_append (h : ∀ c ∈ m, isBlank c = true) : skipBlanks (m ++ cs) = skipBlanks cs :=
  List.dropWhile_append_of_pos h

theorem skipBlanks_cons {c : Char} (h : isBlank c = false) : skipBlanks (c :: cs) = c :: cs :=
  List.dropWhile_cons_of_neg (by simp [h])

theorem skipBlanks_split (cs : List Char) :
    ∃ b, cs = b ++ skipBlanks cs ∧ ∀ c ∈ b, isBlank c = true :=
  ⟨cs.takeWhile isBlank, List.takeWhile_append_dropWhile.symm, fun _ => List.mem_takeWhile_imp⟩

@[simp] theorem skipBlanks_skipBlanks (cs : List Char) :
    skipBlanks (skipBlanks cs) = skipBlanks cs :=
  List.dropWhile_idempotent isBlank cs

/-- A marker word begins with a character that is not trimmed. -/
theorem exists_cons_of_word {word : List Char} (hword : word.map lowerAscii ∈ markerWords) :
    ∃ c rest, word = c :: rest ∧ isTrimmed c = false := by
  have hall : ∀ w ∈ markerWords, ∀ d ∈ w, isTrimmed d = false := by
    simp [markerWords, isTrimmed, isBlank, isSeparator]
  cases word with
  | nil => exact absurd hword (by decide)
  | cons c rest =>
    refine ⟨c, rest, rfl, ?_⟩
    rw [← isTrimmed_lowerAscii]
    exact hall _ hword _ List.mem_cons_self

/-- A marker word in front of a text, with the colon behind it. -/
theorem afterWord?_append {word between after : List Char}
    (hbetween : ∀ c ∈ between, isBlank c = true) (hafter : ∀ c ∈ after, isBlank c = true) :
    afterWord? (word.map lowerAscii) (word ++ (between ++ ':' :: (after ++ cs)))
      = some (skipBlanks cs) := by
  unfold afterWord?
  rw [List.length_map, List.take_left, List.drop_left, skipBlanks_append hbetween,
    skipBlanks_cons (by decide), if_pos (beq_self_eq_true _)]
  exact congrArg some (skipBlanks_append hafter)

theorem afterWord?_of_not_prefix {word : List Char} (h : ¬ word <+: cs.map lowerAscii) :
    afterWord? word cs = none := by
  unfold afterWord?
  rw [if_neg fun hword => h ?_]
  rw [← eq_of_beq hword, List.map_take]
  exact List.take_prefix _ _

/-- No marker word is read in the place of a later one of the list: only fwd goes on
where fw ends, and what follows a marker word is no letter. -/
theorem not_prefix_of_word {word between : List Char} (hword : word.map lowerAscii ∈ markerWords)
    (hbetween : ∀ c ∈ between, isBlank c = true) (cs : List Char) :
    ∃ earlier later, markerWords = earlier ++ word.map lowerAscii :: later ∧
      ∀ w ∈ earlier, ¬ w <+: (word ++ (between ++ ':' :: cs)).map lowerAscii := by
  have hnext : ¬ ['d'] <+: (between ++ ':' :: cs).map lowerAscii := by
    cases between with
    | nil =>
      rw [List.nil_append, List.map_cons, List.cons_prefix_cons]
      exact fun h => absurd h.1 (by decide)
    | cons c between =>
      rw [List.cons_append, List.map_cons, List.cons_prefix_cons]
      intro h
      have hblank := isBlank_lowerAscii c
      rw [← h.1, hbetween c List.mem_cons_self] at hblank
      exact absurd hblank (by decide)
  rw [List.map_append]
  simp only [markerWords, List.mem_cons, List.not_mem_nil, or_false] at hword
  rcases hword with hre | hfwd | hfw | haw
  · rw [hre]
    exact ⟨[], _, rfl, fun w hw => absurd hw List.not_mem_nil⟩
  · rw [hfwd]
    exact ⟨["re".toList], _, rfl, by simp⟩
  · rw [hfw]
    exact ⟨["re".toList, "fwd".toList], _, rfl, by simpa using hnext⟩
  · rw [haw]
    exact ⟨["re".toList, "fwd".toList, "fw".toList], _, rfl, by simp⟩

/-- **A marker in front of a text is read**, with all the white space that follows it. -/
theorem afterMarker?_append (h : IsMarker m) (cs : List Char) :
    afterMarker? (m ++ cs) = some (skipBlanks cs) := by
  obtain ⟨hbefore, hword, hbetween, hafter⟩ := h
  rename_i before word between after
  obtain ⟨c, word, rfl, hc⟩ := exists_cons_of_word hword
  have hskip : skipBlanks (before ++ (c :: word ++ (between ++ ':' :: after)) ++ cs)
      = c :: word ++ (between ++ ':' :: (after ++ cs)) := by
    simp only [List.append_assoc, List.cons_append]
    rw [skipBlanks_append hbefore, skipBlanks_cons (isBlank_of_not_isTrimmed hc)]
  obtain ⟨earlier, later, hwords, hnone⟩ := not_prefix_of_word hword hbetween (after ++ cs)
  unfold afterMarker?
  rw [hskip]
  exact List.findSome?_eq_some_iff.2 ⟨earlier, _, later, hwords, afterWord?_append hbetween hafter,
    fun w hw => afterWord?_of_not_prefix (hnone w hw)⟩

/-- What is read as a marker is one, and no white space is left behind it. -/
theorem exists_marker (h : afterMarker? cs = some rest) :
    ∃ m, IsMarker m ∧ cs = m ++ rest ∧ skipBlanks rest = rest := by
  obtain ⟨word, hword, hrest⟩ := List.exists_of_findSome?_eq_some h
  unfold afterWord? at hrest
  split at hrest
  next hlower =>
    split at hrest
    next behind hcolon =>
      obtain rfl : skipBlanks behind = rest := Option.some.inj hrest
      obtain ⟨before, hbefore, hblank⟩ := skipBlanks_split cs
      obtain ⟨between, hbetween, hblank'⟩ := skipBlanks_split ((skipBlanks cs).drop word.length)
      obtain ⟨after, hafter, hblank''⟩ := skipBlanks_split behind
      refine ⟨_, .mk hblank (eq_of_beq hlower ▸ hword) hblank' hblank'', ?_, by simp⟩
      calc cs
        _ = before ++ ((skipBlanks cs).take word.length ++ (skipBlanks cs).drop word.length) := by
            rw [List.take_append_drop]; exact hbefore
        _ = _ := by
            rw [hbetween, hcolon]
            simp [← hafter]
    next => cases hrest
  next => cases hrest

theorem afterMarker?_skipBlanks (cs : List Char) :
    afterMarker? (skipBlanks cs) = afterMarker? cs := by
  unfold afterMarker?
  rw [skipBlanks_skipBlanks]

end

/-! ## §3. All markers. -/

section

variable {cs rest m chain : List Char}

theorem stripMarkers_of_none (h : afterMarker? cs = none) : stripMarkers cs = cs := by
  rw [stripMarkers]
  split
  next => rfl
  next rest hrest => rw [h] at hrest; cases hrest

theorem stripMarkers_of_some (h : afterMarker? cs = some rest) :
    stripMarkers cs = stripMarkers rest := by
  rw [stripMarkers]
  split
  next hnone => rw [h] at hnone; cases hnone
  next rest' hrest => rw [h] at hrest; rw [Option.some.inj hrest]

/-- What is left begins with no marker. -/
theorem afterMarker?_stripMarkers (cs : List Char) : afterMarker? (stripMarkers cs) = none := by
  induction cs using stripMarkers.induct with
  | case1 cs h => rw [stripMarkers_of_none h, h]
  | case2 cs rest h ih => rw [stripMarkers_of_some h, ih]

theorem pass_of_none (h : afterMarker? cs = none) : pass cs = cs := by
  rw [pass, h, Option.getD_none]

theorem pass_of_some (h : afterMarker? cs = some rest) : pass cs = rest := by
  rw [pass, h, Option.getD_some]

/-- **The markers are taken in passes**, each of them shorter than the one before. -/
theorem stripMarkers_passes (cs : List Char) : Passes cs (stripMarkers cs) := by
  induction cs using stripMarkers.induct with
  | case1 cs h =>
    rw [stripMarkers_of_none h]
    exact .stop (pass_of_none h)
  | case2 cs rest h ih =>
    rw [stripMarkers_of_some h]
    rw [← pass_of_some h] at ih ⊢
    exact .again (by rw [pass_of_some h]; exact length_afterMarker?_lt h) ih

/-- White space at the front is kept exactly when there are no markers behind it. -/
theorem stripMarkers_skipBlanks (cs : List Char) :
    stripMarkers (skipBlanks cs) = stripMarkers cs ∨
      stripMarkers cs = cs ∧ stripMarkers (skipBlanks cs) = skipBlanks cs := by
  cases h : afterMarker? cs with
  | none =>
    exact .inr ⟨stripMarkers_of_none h, stripMarkers_of_none ((afterMarker?_skipBlanks cs).trans h)⟩
  | some rest =>
    rw [stripMarkers_of_some h, stripMarkers_of_some ((afterMarker?_skipBlanks cs).trans h)]
    exact .inl rfl

theorem stripMarkers_skipBlanks_suffix (cs : List Char) :
    stripMarkers (skipBlanks cs) <:+ stripMarkers cs := by
  rcases stripMarkers_skipBlanks cs with heq | ⟨hcs, hskip⟩
  · rw [heq]
  · rw [hcs, hskip]
    exact List.dropWhile_suffix isBlank

theorem stripMarkers_append (h : IsMarker m) (cs : List Char) :
    stripMarkers (m ++ cs) = stripMarkers (skipBlanks cs) :=
  stripMarkers_of_some (afterMarker?_append h cs)

/-- What is left of a text behind a chain is found in the text. -/
theorem stripMarkers_chain_suffix (h : Chain chain) (cs : List Char) :
    stripMarkers (chain ++ cs) <:+ stripMarkers cs := by
  induction h with
  | nil => exact List.suffix_rfl
  | cons first _ ih =>
    rw [List.append_assoc, stripMarkers_append first]
    exact (stripMarkers_skipBlanks_suffix _).trans ih

theorem stripMarkers_split (cs : List Char) :
    ∃ chain, Chain chain ∧ cs = chain ++ stripMarkers cs := by
  induction cs using stripMarkers.induct with
  | case1 cs h =>
    rw [stripMarkers_of_none h]
    exact ⟨[], .nil, rfl⟩
  | case2 cs rest h ih =>
    obtain ⟨chain, hchain, hrest⟩ := ih
    obtain ⟨m, hm, hcs, -⟩ := exists_marker h
    refine ⟨m ++ chain, .cons hm hchain, ?_⟩
    rw [stripMarkers_of_some h, List.append_assoc, ← hrest, hcs]

theorem stripMarkers_suffix (cs : List Char) : stripMarkers cs <:+ cs := by
  obtain ⟨chain, -, hcs⟩ := stripMarkers_split cs
  exact ⟨chain, hcs.symm⟩

/-- **What is left follows the longest chain** at the front of a text. -/
theorem stripMarkers_leaves (cs : List Char) : ∃ chain, Leaves cs chain (stripMarkers cs) := by
  obtain ⟨chain, hchain, hcs⟩ := stripMarkers_split cs
  refine ⟨chain, hchain, hcs, fun chain' hchain' ⟨rest', hrest'⟩ => ?_⟩
  -- What is left lies within what `chain'` leaves, so `chain'` ends before `chain` does.
  have hle : (stripMarkers cs).length ≤ rest'.length := by
    rw [← hrest']
    exact ((stripMarkers_chain_suffix hchain' rest').trans (stripMarkers_suffix rest')).length_le
  refine List.prefix_of_prefix_length_le ⟨rest', hrest'⟩ ⟨stripMarkers cs, hcs.symm⟩ ?_
  have hlength := congrArg List.length (hrest'.trans hcs)
  simp only [List.length_append] at hlength
  omega

/-! ## §4. Subjects. -/

theorem trimWhile_stripMarkers_skipBlanks (cs : List Char) :
    trimWhile isTrimmed (stripMarkers (skipBlanks cs)) = trimWhile isTrimmed (stripMarkers cs) := by
  rcases stripMarkers_skipBlanks cs with heq | ⟨hcs, hskip⟩
  · rw [heq]
  · obtain ⟨b, hb, hblank⟩ := skipBlanks_split cs
    rw [hcs, hskip]
    conv_rhs => rw [hb]
    exact (trimWhile_append_left fun c hc => isTrimmed_of_isBlank (hblank c hc)).symm

theorem trimWhile_stripMarkers_chain (h : Chain chain) (cs : List Char) :
    trimWhile isTrimmed (stripMarkers (chain ++ cs)) = trimWhile isTrimmed (stripMarkers cs) := by
  induction h with
  | nil => rfl
  | cons first _ ih =>
    rw [List.append_assoc, stripMarkers_append first, trimWhile_stripMarkers_skipBlanks, ih]

theorem toList_normalize (subject : String) :
    (normalize subject).toList
      = lowerChars (trimWhile isTrimmed (stripMarkers subject.toList)) := by
  simp [normalize, lower, trim]

/-- **A chain of markers in front of a subject makes no difference.**  What is compared
is what the longest chain leaves, trimmed and in lower case, and it is found in passes
that each make the text shorter. -/
theorem normalize_chain (subject : String) :
    (∀ chain, Chain chain → normalize (String.ofList chain ++ subject) = normalize subject) ∧
      ∃ chain rest, Leaves subject.toList chain rest ∧
        normalize subject = lower (trim (String.ofList rest)) ∧ Passes subject.toList rest := by
  refine ⟨fun chain hchain => ?_, ?_⟩
  · apply String.toList_injective
    rw [toList_normalize, toList_normalize, String.toList_append, String.toList_ofList,
      trimWhile_stripMarkers_chain hchain]
  · obtain ⟨chain, hleaves⟩ := stripMarkers_leaves subject.toList
    exact ⟨chain, _, hleaves, rfl, stripMarkers_passes _⟩

/-- Two markers in front of a subject that has one of its own. -/
theorem normalize_two_markers :
    Chain "Re: FW :".toList ∧
      normalize (String.ofList "Re: FW :".toList ++ "\taw: Hello") = normalize "\taw: Hello" := by
  have hchain : Chain "Re: FW :".toList :=
    .cons (@IsMarker.mk [] "Re".toList [] [' '] (by simp) (by decide) (by simp) (by simp [isBlank]))
      (.cons (@IsMarker.mk [] "FW".toList [' '] [] (by simp) (by decide) (by simp [isBlank])
        (by simp)) .nil)
  exact ⟨hchain, (normalize_chain "\taw: Hello").1 _ hchain⟩

end

end Mailroom.Thread
