import Mathlib.Data.List.TakeWhile
import Mailroom.Imap.Fetch
import Mailroom.Imap.Flag
import Mailroom.Proofs.Imap.Numeral
import Mailroom.Proofs.Text.Prefix
import Mailroom.Proofs.Text.Words
/-!
  Mailroom.Proofs.Imap.FlagList
  ────────────────────────────────
  **WHERE A UID AND A LIST OF FLAGS ARE FOUND.**

  The reader looks for the first word start at which `UID` and digits, or `FLAGS` and a
  list in parentheses, can be read.  What it passes over does not matter, with one
  exception: inside a list of flags, a flag that ends in the word UID with a flag behind
  it that begins with digits reads like a UID.  Such digits are a `lure?` of the list.

      firstAtWord?_append  — what is passed over
      uidItem?_numeral     — a UID where it stands
      flagsItem?_list      — a list of flags where it stands
      firstUid_flags       — what the search for a UID finds in a list of flags
      endsInUid_iff        — which flags end in the word UID
      flags_read           — the flags of a list
-/
namespace Mailroom.Imap

open Mailroom.Text

/-! ## §1. Searching. -/

section

variable {α : Type} {read : Octets → Option α} {pre rest : Octets} {b : UInt8} {w : Bool}

/-- Whether a byte of a word is the last before a place; `inWord` says so of the place
where `pre` starts. -/
def endsInWord (inWord : Bool) (pre : Octets) : Bool := pre.foldl (fun _ b => isWordByte b) inWord

theorem endsInWord_concat (w : Bool) (pre : Octets) (b : UInt8) :
    endsInWord w (pre ++ [b]) = isWordByte b := by
  rw [endsInWord, List.foldl_append]
  rfl

theorem firstAtWord?_cons (read : Octets → Option α) (w : Bool) (b : UInt8) (bs : Octets) :
    firstAtWord? read w (b :: bs)
      = ((if w then none else read (b :: bs)).or (firstAtWord? read (isWordByte b) bs)) := by
  rw [firstAtWord?]
  cases (if w then none else read (b :: bs)) <;> rfl

/-- **What cannot be read is passed over**, wherever in it the reading starts. -/
theorem firstAtWord?_append (h : ∀ u v, pre = u ++ v → v ≠ [] → read (v ++ rest) = none) (w : Bool) :
    firstAtWord? read w (pre ++ rest) = firstAtWord? read (endsInWord w pre) rest := by
  induction pre generalizing w with
  | nil => rfl
  | cons b pre ih =>
    have hnone := h [] (b :: pre) rfl (List.cons_ne_nil b pre)
    rw [List.cons_append] at hnone
    rw [List.cons_append, firstAtWord?_cons, hnone, ite_self, Option.none_or]
    exact ih (fun u v huv hv => h (b :: u) v (by rw [huv]; rfl) hv) (isWordByte b)

theorem firstAtWord?_quiet (h : ∀ b ∈ pre, ∀ bs, read (b :: bs) = none) (w : Bool) :
    firstAtWord? read w (pre ++ rest) = firstAtWord? read (endsInWord w pre) rest := by
  refine firstAtWord?_append (fun u v huv hv => ?_) w
  obtain ⟨b, v, rfl⟩ := List.exists_cons_of_ne_nil hv
  exact h b (by rw [huv]; simp) _

theorem firstAtWord?_of_some {a : α} {bs : Octets} (h : read (b :: bs) = some a) :
    firstAtWord? read false (b :: bs) = some a := by
  rw [firstAtWord?_cons, if_neg Bool.false_ne_true, h, Option.some_or]

/-! ## §2. A prefix and what follows it. -/

variable {p f : Octets} {s : UInt8}

theorem all_ne (hf : s ∉ f) : ∀ b ∈ f, decide (b ≠ s) = true :=
  fun _ hb => decide_eq_true fun h => hf (h ▸ hb)

/-- What stands in front of the first space. -/
theorem takeWhile_space (hf : 32 ∉ f) (rest : Octets) :
    (f ++ 32 :: rest).takeWhile (· ≠ 32) = f := by
  rw [List.takeWhile_append_of_pos (all_ne hf), List.takeWhile_cons_of_neg (by simp), List.append_nil]

/-- A word and a space are found only where that word stands in front of a space. -/
theorem dropPrefix?_word (hp : 32 ∉ p) (hf : 32 ∉ f) :
    dropPrefix? (p ++ [32]) (f ++ 32 :: rest) = if f = p then some rest else none := by
  split
  next h => rw [h, dropPrefix?_eq_some_iff, List.append_assoc, List.singleton_append]
  next h =>
    refine Option.eq_none_iff_forall_ne_some.2 fun after hafter => h ?_
    rw [dropPrefix?_eq_some_iff, List.append_assoc, List.singleton_append] at hafter
    rw [← takeWhile_space hf rest, hafter, takeWhile_space hp after]

/-- In front of another octet a word is not followed by a space. -/
theorem dropPrefix?_no_space (hp : 32 ∉ p) (hs : s ∉ p) (hs' : s ≠ 32) (hf : 32 ∉ f) :
    dropPrefix? (p ++ [32]) (f ++ s :: rest) = none := by
  refine Option.eq_none_iff_forall_ne_some.2 fun after hafter => hs ?_
  rw [dropPrefix?_eq_some_iff, List.append_assoc, List.singleton_append] at hafter
  have hmem : s ∈ (f ++ s :: rest).takeWhile (· ≠ 32) := by
    rw [List.takeWhile_append_of_pos (all_ne hf), List.takeWhile_cons_of_pos (by simpa using hs')]
    simp
  rwa [hafter, takeWhile_space hp] at hmem

end

/-! ## §3. A UID. -/

section

variable {f digits rest : Octets} {b s : UInt8}

/-- The digits at the front of octets. -/
def leadingDigits (bs : Octets) : Octets := bs.takeWhile isByteDigit

theorem uidItem?_eq (bs : Octets) : uidItem? bs = (dropPrefix? (octets "UID ") bs).bind fun rest =>
    if (leadingDigits rest).isEmpty then none else some (leadingDigits rest) := by
  rw [uidItem?]
  cases dropPrefix? (octets "UID ") bs <;> rfl

theorem uidItem?_of_ne (h : b ≠ 85) : uidItem? (b :: rest) = none := by
  rw [uidItem?_eq, Option.bind_eq_none_iff]
  intro after hafter
  exact absurd (List.cons.inj (dropPrefix?_eq_some_iff.1 hafter)).1 h

theorem leadingDigits_append (h : ∀ b ∈ rest.head?, isByteDigit b = false) (bs : Octets) :
    leadingDigits (bs ++ rest) = leadingDigits bs := by
  have hrest : rest.takeWhile isByteDigit = [] := by
    cases rest with
    | nil => rfl
    | cons b rest => exact List.takeWhile_cons_of_neg (by simp [h b rfl])
  unfold leadingDigits
  rw [List.takeWhile_append, hrest, List.append_nil]
  split
  next hall => exact ((List.takeWhile_prefix _).eq_of_length hall).symm
  next => rfl

/-- **A UID is read where it stands**, up to where its digits end. -/
theorem uidItem?_numeral (n : Nat) (h : ∀ b ∈ rest.head?, isByteDigit b = false) :
    uidItem? (octets "UID " ++ (numeral n ++ rest)) = some (numeral n) := by
  have hdigits : leadingDigits (numeral n) = numeral n :=
    List.takeWhile_eq_self_iff.2 (isByteDigit_numeral n)
  rw [uidItem?_eq, dropPrefix?_eq_some_iff.2 rfl, Option.bind_some, leadingDigits_append h, hdigits]
  exact if_neg (by simp [numeral_ne_nil])

theorem octets_uid : octets "UID " = octets "UID" ++ [32] := by decide

/-- In front of a space a word is read as a UID when it is UID, and digits follow. -/
theorem uidItem?_word (hf : 32 ∉ f) : uidItem? (f ++ 32 :: rest) =
    if f = octets "UID" ∧ leadingDigits rest ≠ [] then some (leadingDigits rest) else none := by
  rw [uidItem?_eq, octets_uid, dropPrefix?_word (by decide) hf]
  by_cases huid : f = octets "UID"
  · rw [if_pos huid, Option.bind_some]
    by_cases hdigits : leadingDigits rest = [] <;> simp [huid, hdigits]
  · rw [if_neg huid, if_neg fun h => huid h.1]
    rfl

/-! ## §4. A list of flags. -/

theorem flagsItem?_eq (bs : Octets) : flagsItem? bs
    = (dropPrefix? (octets "FLAGS (") bs).bind fun rest =>
      if rest.contains 41 then some (rest.takeWhile (· ≠ 41)) else none := by
  rw [flagsItem?]
  cases dropPrefix? (octets "FLAGS (") bs <;> rfl

theorem flagsItem?_of_ne (h : b ≠ 70) : flagsItem? (b :: rest) = none := by
  rw [flagsItem?_eq, Option.bind_eq_none_iff]
  intro after hafter
  exact absurd (List.cons.inj (dropPrefix?_eq_some_iff.1 hafter)).1 h

/-- **A list of flags is read where it stands**, up to its closing parenthesis. -/
theorem flagsItem?_list (hf : 41 ∉ f) :
    flagsItem? (octets "FLAGS (" ++ (f ++ 41 :: rest)) = some f := by
  rw [flagsItem?_eq, dropPrefix?_eq_some_iff.2 rfl, Option.bind_some, if_pos (by simp),
    List.takeWhile_append_of_pos (all_ne hf), List.takeWhile_cons_of_neg (by simp), List.append_nil]

/-- A flag that can be sent and that is one word. -/
structure IsOneWord (flag : String) : Prop where
  sendable : isFlag flag = true
  oneLine : '\n' ∉ flag.toList

instance (flag : String) : Decidable (IsOneWord flag) :=
  decidable_of_iff (isFlag flag = true ∧ '\n' ∉ flag.toList)
    ⟨fun ⟨h₁, h₂⟩ => ⟨h₁, h₂⟩, fun h => ⟨h.sendable, h.oneLine⟩⟩

theorem IsOneWord.ne_empty {flag : String} (h : IsOneWord flag) : flag ≠ "" := by
  rintro rfl
  exact absurd h.sendable (by decide)

/-- A flag is what stands behind its leading backslash, and the backslash if it has one. -/
theorem flagBody_cases (cs : List Char) : cs = flagBody cs ∨ cs = '\\' :: flagBody cs := by
  unfold flagBody
  split
  · exact .inr rfl
  · exact .inl rfl

theorem withoutFinalLineFeed_of_not_mem {cs : List Char} (h : '\n' ∉ cs) :
    withoutFinalLineFeed cs = cs := by
  rw [withoutFinalLineFeed, if_neg]
  rw [beq_iff_eq]
  exact fun hlast => h (List.mem_of_getLast? hlast)

/-- A flag is one word when behind its leading backslash there are characters of an atom,
and nothing else. -/
theorem isOneWord_iff {flag : String} : IsOneWord flag ↔
    flagBody flag.toList ≠ [] ∧ ∀ c ∈ flagBody flag.toList, isAtomChar c = true := by
  have hsend (hnot : '\n' ∉ flagBody flag.toList) : isFlag flag = true ↔
      flagBody flag.toList ≠ [] ∧ ∀ c ∈ flagBody flag.toList, isAtomChar c = true := by
    rw [isFlag, withoutFinalLineFeed_of_not_mem hnot, Bool.and_eq_true, List.all_eq_true,
      Bool.not_eq_true', List.isEmpty_eq_false_iff]
  have hline : '\n' ∈ flag.toList ↔ '\n' ∈ flagBody flag.toList := by
    rcases flagBody_cases flag.toList with heq | heq
    · rw [← heq]
    · rw [heq, List.mem_cons, or_iff_right (by decide), flagBody]
  constructor
  · intro h
    exact (hsend fun hmem => h.oneLine (hline.2 hmem)).1 h.sendable
  · intro h
    have hnot : '\n' ∉ flagBody flag.toList := fun hmem => absurd (h.2 _ hmem) (by decide)
    exact ⟨(hsend hnot).2 h, fun hmem => hnot (hline.1 hmem)⟩

/-- A character of a flag is a backslash, or may stand in an atom. -/
theorem IsOneWord.mem {flag : String} {c : Char} (h : IsOneWord flag) (hc : c ∈ flag.toList) :
    c = '\\' ∨ isAtomChar c = true := by
  rcases flagBody_cases flag.toList with heq | heq <;> rw [heq] at hc
  · exact .inr ((isOneWord_iff.1 h).2 c hc)
  · exact (List.mem_cons.1 hc).imp_right ((isOneWord_iff.1 h).2 c)

/-- The octets of a flag are no blanks and close no parenthesis. -/
theorem IsOneWord.not_mem {flag : String} (h : IsOneWord flag) {d : Char} (hd : d.toNat < 128)
    (hslash : d ≠ '\\') (hatom : isAtomChar d = false) : UInt8.ofNat d.toNat ∉ encode flag := by
  refine not_mem_encodeChars hd fun hmem => ?_
  rcases h.mem hmem with heq | hchar
  · exact hslash heq
  · rw [hatom] at hchar
    cases hchar

theorem IsOneWord.isByteWord {flag : String} (h : IsOneWord flag) : IsByteWord (encode flag) := by
  refine isByteWord_encode h.ne_empty fun c hc => ?_
  rcases h.mem hc with rfl | hchar
  · rfl
  · rw [isAtomChar, Bool.and_eq_true, Bool.not_eq_true'] at hchar
    exact hchar.1

/-- The flags of a list, with spaces between them. -/
def flagOctets (flags : List String) : Octets := [32].intercalate (flags.map encode)

/-- **The flags of a list are read back.** -/
theorem flags_read {flags : List String} (h : ∀ flag ∈ flags, IsOneWord flag) :
    (byteWords (flagOctets flags)).map decode = flags := by
  have hwords : ∀ w ∈ flags.map encode, IsByteWord w := by
    intro w hw
    obtain ⟨flag, hflag, rfl⟩ := List.mem_map.1 hw
    exact (h flag hflag).isByteWord
  rw [flagOctets, byteWords_intercalate hwords, List.map_map]
  exact (List.map_congr_left fun flag _ => decode_encode flag).trans (List.map_id' _)

theorem not_space_flags {flags : List String} (h : ∀ flag ∈ flags, IsOneWord flag) :
    ∀ f ∈ flags.map encode, 32 ∉ f := by
  intro f hf
  obtain ⟨flag, hflag, rfl⟩ := List.mem_map.1 hf
  exact (h flag hflag).not_mem (d := ' ') (by decide) (by decide) (by decide)

theorem not_close_flags {flags : List String} (h : ∀ flag ∈ flags, IsOneWord flag) :
    41 ∉ flagOctets flags := by
  intro hmem
  obtain hspace | ⟨w, hw, hclose⟩ := mem_intercalate hmem
  · exact absurd hspace (by decide)
  · obtain ⟨flag, hflag, rfl⟩ := List.mem_map.1 hw
    exact (h flag hflag).not_mem (d := ')') (by decide) (by decide) (by decide) hclose

/-! ## §5. A UID in a list of flags. -/

/-- Whether a flag ends in the word UID; `inWord` says whether a byte of a word precedes
it. -/
def endsInUid (inWord : Bool) : Octets → Bool
  | [] => false
  | b :: bs => !inWord && b :: bs == octets "UID" || endsInUid (isWordByte b) bs

/-- The digits in a list of flags that read like a UID: those at the front of a flag
behind one that ends in the word UID. -/
def lure? : List Octets → Option Octets
  | f :: g :: fs =>
    if endsInUid false f && !(leadingDigits g).isEmpty then some (leadingDigits g)
    else lure? (g :: fs)
  | _ => none

theorem endsInUid_iff {w : Bool} : endsInUid w f = true ↔
    ∃ pre, f = pre ++ octets "UID" ∧ endsInWord w pre = false := by
  induction f generalizing w with
  | nil =>
    refine iff_of_false Bool.false_ne_true ?_
    rintro ⟨pre, hpre, -⟩
    exact absurd (List.append_eq_nil_iff.1 hpre.symm).2 (by decide)
  | cons b f ih =>
    rw [endsInUid, Bool.or_eq_true, ih, Bool.and_eq_true, Bool.not_eq_true', beq_iff_eq]
    constructor
    · rintro (⟨rfl, huid⟩ | ⟨pre, rfl, hpre⟩)
      · exact ⟨[], huid, rfl⟩
      · exact ⟨b :: pre, rfl, hpre⟩
    · rintro ⟨pre, hf, hpre⟩
      cases pre with
      | nil => exact .inl ⟨hpre, hf⟩
      | cons c pre =>
        obtain ⟨rfl, rfl⟩ := List.cons.inj hf
        exact .inr ⟨pre, rfl, hpre⟩

/-- The search for a UID in a flag with a space behind it. -/
theorem firstUid_word {w : Bool} (hf : 32 ∉ f) : firstAtWord? uidItem? w (f ++ 32 :: rest) =
    if endsInUid w f && !(leadingDigits rest).isEmpty then some (leadingDigits rest)
    else firstAtWord? uidItem? false rest := by
  induction f generalizing w with
  | nil =>
    rw [List.nil_append, firstAtWord?_cons, uidItem?_of_ne (by decide), ite_self, Option.none_or]
    rfl
  | cons b f ih =>
    have hitem : uidItem? (b :: (f ++ 32 :: rest)) =
        if b :: f = octets "UID" ∧ leadingDigits rest ≠ [] then some (leadingDigits rest)
        else none := uidItem?_word hf
    rw [List.mem_cons, not_or] at hf
    rw [List.cons_append, firstAtWord?_cons, ih hf.2, endsInUid, hitem]
    by_cases hdigits : leadingDigits rest = []
    · simp [hdigits]
    · cases w <;> by_cases huid : b :: f = octets "UID" <;> simp [hdigits, huid]

/-- The search for a UID in the last flag of a list. -/
theorem firstUid_last {w : Bool} (hf : 32 ∉ f) :
    firstAtWord? uidItem? w (f ++ 41 :: rest) = firstAtWord? uidItem? false rest := by
  rw [firstAtWord?_append, firstAtWord?_cons, uidItem?_of_ne (by decide), ite_self, Option.none_or]
  · rfl
  · rintro u v rfl -
    -- In front of the parenthesis the word UID is not followed by a space.
    rw [uidItem?_eq, octets_uid, dropPrefix?_no_space (by decide) (by decide) (by decide)
      fun h => hf (List.mem_append_right u h)]
    rfl

/-- **In a list of flags the search for a UID finds a lure, or goes on behind it**, by
induction on the flags. -/
theorem firstUid_flags {fs : List Octets} (h : ∀ f ∈ fs, 32 ∉ f) (rest : Octets) :
    firstAtWord? uidItem? false ([32].intercalate fs ++ 41 :: rest)
      = (lure? fs).or (firstAtWord? uidItem? false rest) := by
  induction fs with
  | nil => exact firstUid_last (f := []) (List.not_mem_nil)
  | cons f fs ih =>
    have hf := h f List.mem_cons_self
    cases fs with
    | nil =>
      rw [List.intercalate_singleton]
      exact firstUid_last hf
    | cons g fs =>
      -- The digits behind the space are those of the next flag, for a space or the
      -- parenthesis ends it.
      have hlead : leadingDigits ([32].intercalate (g :: fs) ++ 41 :: rest) = leadingDigits g := by
        cases fs with
        | nil =>
          rw [List.intercalate_singleton]
          exact leadingDigits_append (by rintro b ⟨⟩; rfl) g
        | cons k fs =>
          rw [List.intercalate_cons_cons, List.append_assoc, List.append_assoc]
          exact leadingDigits_append (by rintro b ⟨⟩; rfl) g
      rw [List.intercalate_cons_cons, List.append_assoc, List.append_assoc, List.singleton_append,
        firstUid_word hf, hlead, lure?, ih fun k hk => h k (List.mem_cons_of_mem f hk)]
      split
      · rfl
      · rfl

end

end Mailroom.Imap
