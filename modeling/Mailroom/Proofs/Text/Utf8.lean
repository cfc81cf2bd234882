import Mathlib.Data.List.Basic
import Mailroom.Text.Utf8
/-!
  Mailroom.Proofs.Text.Utf8
  ────────────────────────────────
  **WHAT IS ENCODED IS DECODED AGAIN.**

  The octets of a character are one sequence, whatever follows them, so a text is read
  back character by character.  An octet below 128 stands for itself wherever it occurs:
  no part of a longer sequence looks like an ASCII character.

      sequenceAt_encodeChar — a character is read back from its octets
      decode_encode         — and so is a text
      mem_encodeChars       — an ASCII octet of a text is one of its characters
      decodeAscii_encode    — an ASCII text, read octet by octet
-/
namespace Mailroom.Text

/-! ## §1. Octets of one character. -/

theorem toNat_octet {n : Nat} (h : n < 256) : (UInt8.ofNat n).toNat = n := by
  rw [UInt8.toNat_ofNat']
  exact Nat.mod_eq_of_lt h

theorem isContinuation_low (n : Nat) : isContinuation (UInt8.ofNat (n % 64 + 128)) = true := by
  have hn : (UInt8.ofNat (n % 64 + 128)).toNat = n % 64 + 128 := toNat_octet (by omega)
  simp only [isContinuation, Bool.and_eq_true, decide_eq_true_eq, UInt8.le_iff_toNat_le,
    UInt8.lt_iff_toNat_lt, hn]
  exact ⟨by show 128 ≤ _; omega, by show _ < 192; omega⟩

theorem low6_low (n : Nat) : low6 (UInt8.ofNat (n % 64 + 128)) = n % 64 := by
  rw [low6, toNat_octet (by omega)]
  omega

theorem mayFollow_low {a : UInt8} {n : Nat} (h1 : a.toNat = 224 → 32 ≤ n % 64)
    (h2 : a.toNat = 237 → n % 64 < 32) (h3 : a.toNat = 240 → 16 ≤ n % 64)
    (h4 : a.toNat = 244 → n % 64 < 16) :
    mayFollow a (UInt8.ofNat (n % 64 + 128)) = true := by
  have hn : (UInt8.ofNat (n % 64 + 128)).toNat = n % 64 + 128 := toNat_octet (by omega)
  simp only [mayFollow, isContinuation_low, Bool.true_and, Bool.and_eq_true, Bool.not_eq_true',
    Bool.and_eq_false_iff, beq_eq_false_iff_ne, decide_eq_false_iff_not, UInt8.le_iff_toNat_le,
    UInt8.lt_iff_toNat_lt, hn, ne_eq, ← UInt8.toNat_inj]
  simp
  omega

theorem octet_lt_iff {n : Nat} {b : UInt8} (h : n < 256) : UInt8.ofNat n < b ↔ n < b.toNat := by
  rw [UInt8.lt_iff_toNat_lt, toNat_octet h]

theorem le_octet_iff {n : Nat} {b : UInt8} (h : n < 256) : b ≤ UInt8.ofNat n ↔ b.toNat ≤ n := by
  rw [UInt8.le_iff_toNat_le, toNat_octet h]

/-- Which octets lie in a class given by its bounds. -/
theorem octet_class {n : Nat} {lo hi : UInt8} (h : n < 256) :
    (lo ≤ UInt8.ofNat n && UInt8.ofNat n < hi) = true ↔ lo.toNat ≤ n ∧ n < hi.toNat := by
  rw [Bool.and_eq_true, decide_eq_true_eq, decide_eq_true_eq, octet_lt_iff h, le_octet_iff h]

section

variable {n m k l : Nat} {r : List UInt8}

theorem sequenceAt_one (h : n < 128) :
    sequenceAt (UInt8.ofNat n) r = (0, some (Char.ofNat n)) := by
  unfold sequenceAt
  rw [if_pos ((octet_lt_iff (by omega)).2 h), toNat_octet (by omega)]

theorem sequenceAt_two (h : 2 ≤ n) (h' : n < 32) :
    sequenceAt (UInt8.ofNat (n + 192)) (UInt8.ofNat (m % 64 + 128) :: r)
      = (1, some (Char.ofNat (n * 64 + m % 64))) := by
  have hn : n + 192 < 256 := by omega
  unfold sequenceAt
  rw [if_neg (by rw [octet_lt_iff hn]; show ¬ _ < 128; omega),
    if_pos ((octet_class hn).2 ⟨by show 194 ≤ _; omega, by show _ < 224; omega⟩)]
  simp only [isContinuation_low, if_true, low6_low, toNat_octet hn]
  rw [show (n + 192) % 32 = n by omega]

theorem sequenceAt_three (h : n < 16) (hlow : n = 0 → 32 ≤ m % 64) (hsurrogate : n = 13 → m % 64 < 32) :
    sequenceAt (UInt8.ofNat (n + 224))
        (UInt8.ofNat (m % 64 + 128) :: UInt8.ofNat (k % 64 + 128) :: r)
      = (2, some (Char.ofNat ((n * 64 + m % 64) * 64 + k % 64))) := by
  have hn : n + 224 < 256 := by omega
  have hfollow : mayFollow (UInt8.ofNat (n + 224)) (UInt8.ofNat (m % 64 + 128)) = true := by
    apply mayFollow_low <;> rw [toNat_octet hn] <;> omega
  unfold sequenceAt
  rw [if_neg (by rw [octet_lt_iff hn]; show ¬ _ < 128; omega),
    if_neg (by rw [octet_class hn]; show ¬ (_ ∧ _ < 224); omega),
    if_pos ((octet_class hn).2 ⟨by show 224 ≤ _; omega, by show _ < 240; omega⟩)]
  simp only [hfollow, isContinuation_low, Bool.not_true, Bool.false_eq_true, if_false, low6_low,
    toNat_octet hn]
  rw [show (n + 224) % 16 = n by omega]

theorem sequenceAt_four (h : n < 5) (hlow : n = 0 → 16 ≤ m % 64) (hhigh : n = 4 → m % 64 < 16) :
    sequenceAt (UInt8.ofNat (n + 240)) (UInt8.ofNat (m % 64 + 128)
        :: UInt8.ofNat (k % 64 + 128) :: UInt8.ofNat (l % 64 + 128) :: r)
      = (3, some (Char.ofNat (((n * 64 + m % 64) * 64 + k % 64) * 64 + l % 64))) := by
  have hn : n + 240 < 256 := by omega
  have hfollow : mayFollow (UInt8.ofNat (n + 240)) (UInt8.ofNat (m % 64 + 128)) = true := by
    apply mayFollow_low <;> rw [toNat_octet hn] <;> omega
  unfold sequenceAt
  rw [if_neg (by rw [octet_lt_iff hn]; show ¬ _ < 128; omega),
    if_neg (by rw [octet_class hn]; show ¬ (_ ∧ _ < 224); omega),
    if_neg (by rw [octet_class hn]; show ¬ (_ ∧ _ < 240); omega),
    if_pos ((octet_class hn).2 ⟨by show 240 ≤ _; omega, by show _ < 245; omega⟩)]
  simp only [hfollow, isContinuation_low, Bool.not_true, Bool.false_eq_true, if_false, low6_low,
    toNat_octet hn]
  rw [show (n + 240) % 8 = n by omega]

end

/-- **A character is read back from its octets**, whatever follows them. -/
theorem sequenceAt_encodeChar (c : Char) (rest : List UInt8) :
    ∃ a tail, String.utf8EncodeChar c = a :: tail ∧
      sequenceAt a (tail ++ rest) = (tail.length, some c) := by
  have hc : Char.ofNat c.val.toNat = c := Char.ofNat_toNat c
  have hvalid : c.val.toNat < 0xD800 ∨ 0xDFFF < c.val.toNat ∧ c.val.toNat < 0x110000 := c.valid
  unfold String.utf8EncodeChar
  dsimp only
  generalize c.val.toNat = v at *
  subst hc
  split
  · exact ⟨_, [], rfl, sequenceAt_one (by omega)⟩
  split
  · refine ⟨_, _, rfl, (sequenceAt_two (by omega) (by omega)).trans ?_⟩
    rw [show v / 64 % 32 * 64 + v % 64 = v by omega]
    rfl
  split
  · refine ⟨_, _, rfl, (sequenceAt_three (by omega) (by omega) (by omega)).trans ?_⟩
    rw [show (v / 4096 % 16 * 64 + v / 64 % 64) * 64 + v % 64 = v by omega]
    rfl
  · refine ⟨_, _, rfl, (sequenceAt_four (by omega) (by omega) (by omega)).trans ?_⟩
    rw [show ((v / 262144 % 8 * 64 + v / 4096 % 64) * 64 + v / 64 % 64) * 64 + v % 64 = v by omega]
    rfl

/-! ## §2. Texts. -/

section

variable {c : Char} {cs : List Char} {b : UInt8} {s : String}

theorem decodeFrom_append (bad : List UInt8 → List Char) (pre rest : List UInt8) :
    decodeFrom bad pre.length (pre ++ rest) = decodeFrom bad 0 rest := by
  induction pre with
  | nil => rfl
  | cons b pre ih => rw [List.length_cons, List.cons_append, decodeFrom, ih]

theorem decodeChars_encodeChar (c : Char) (rest : List UInt8) :
    decodeChars (String.utf8EncodeChar c ++ rest) = c :: decodeChars rest := by
  obtain ⟨a, tail, hc, hseq⟩ := sequenceAt_encodeChar c rest
  unfold decodeChars
  rw [hc, List.cons_append, decodeFrom, hseq]
  exact congrArg _ (decodeFrom_append _ tail rest)

theorem encodeChars_append (cs ds : List Char) :
    encodeChars (cs ++ ds) = encodeChars cs ++ encodeChars ds := List.flatMap_append

theorem encodeChars_cons (c : Char) (cs : List Char) :
    encodeChars (c :: cs) = String.utf8EncodeChar c ++ encodeChars cs := List.flatMap_cons

/-- **A text is read back**, with any octets behind it. -/
theorem decodeChars_append (cs : List Char) (rest : List UInt8) :
    decodeChars (encodeChars cs ++ rest) = cs ++ decodeChars rest := by
  induction cs with
  | nil => rfl
  | cons c cs ih =>
    rw [encodeChars_cons, List.append_assoc, decodeChars_encodeChar, ih, List.cons_append]

theorem decodeChars_encodeChars (cs : List Char) : decodeChars (encodeChars cs) = cs := by
  simpa [decodeChars, decodeFrom] using decodeChars_append cs []

theorem decode_encode (s : String) : decode (encode s) = s := by
  rw [decode, encode, decodeChars_encodeChars, String.ofList_toList]

theorem encode_ne_nil (h : s ≠ "") : encode s ≠ [] := by
  intro hnil
  apply h
  rw [← decode_encode s, hnil]
  rfl

/-! ## §3. ASCII. -/

/-- An octet below 128 is a character by itself. -/
theorem toNat_of_mem_encodeChar (h : b ∈ String.utf8EncodeChar c) (hb : b.toNat < 128) :
    c.toNat = b.toNat := by
  unfold String.utf8EncodeChar at h
  dsimp only at h
  show c.val.toNat = b.toNat
  generalize c.val.toNat = v at h ⊢
  split at h
  · rw [List.mem_singleton] at h
    rw [h, toNat_octet (by omega)]
  · exfalso
    -- Every octet of a longer sequence is at least 128.
    have hge : ∀ n, 128 ≤ n → n < 256 → b ≠ UInt8.ofNat n := by
      rintro n hn hn' rfl
      rw [toNat_octet hn'] at hb
      omega
    split at h
    · simp only [List.mem_cons, List.not_mem_nil, or_false] at h
      rcases h with h | h <;> exact hge _ (by omega) (by omega) h
    split at h
    · simp only [List.mem_cons, List.not_mem_nil, or_false] at h
      rcases h with h | h | h <;> exact hge _ (by omega) (by omega) h
    · simp only [List.mem_cons, List.not_mem_nil, or_false] at h
      rcases h with h | h | h | h <;> exact hge _ (by omega) (by omega) h

/-- **An ASCII octet of a text is one of its characters.** -/
theorem mem_encodeChars (h : b ∈ encodeChars cs) (hb : b.toNat < 128) :
    ∃ c ∈ cs, c.toNat = b.toNat := by
  obtain ⟨c, hc, hmem⟩ := List.mem_flatMap.1 h
  exact ⟨c, hc, toNat_of_mem_encodeChar hmem hb⟩

/-- An ASCII octet that is no character of a text is none of its octets. -/
theorem not_mem_encodeChars {d : Char} (hd : d.toNat < 128) (h : d ∉ cs) :
    UInt8.ofNat d.toNat ∉ encodeChars cs := by
  intro hmem
  have hcode : (UInt8.ofNat d.toNat).toNat = d.toNat := toNat_octet (by omega)
  obtain ⟨c, hc, heq⟩ := mem_encodeChars hmem (by omega)
  rw [hcode, Char.toNat_inj] at heq
  exact h (heq ▸ hc)

theorem encodeChar_ascii (h : c.toNat < 128) :
    String.utf8EncodeChar c = [UInt8.ofNat c.toNat] :=
  if_pos (Nat.le_of_lt_succ h)

theorem encodeChars_ascii (h : ∀ c ∈ cs, c.toNat < 128) :
    encodeChars cs = cs.map fun c => UInt8.ofNat c.toNat := by
  induction cs with
  | nil => rfl
  | cons c cs ih =>
    rw [encodeChars_cons, encodeChar_ascii (h c List.mem_cons_self),
      ih fun d hd => h d (List.mem_cons_of_mem c hd)]
    rfl

/-- **An ASCII text is read back octet by octet.** -/
theorem decodeAscii_encode (h : ∀ c ∈ s.toList, c.toNat < 128) : decodeAscii (encode s) = s := by
  have hread : ∀ c ∈ s.toList, (if UInt8.ofNat c.toNat < 0x80
      then Char.ofNat (UInt8.ofNat c.toNat).toNat else replacement) = c := by
    intro c hc
    have hlt := h c hc
    rw [if_pos ((octet_lt_iff (by omega)).2 hlt), toNat_octet (by omega), Char.ofNat_toNat]
  rw [decodeAscii, encode, encodeChars_ascii h, List.map_map]
  exact (congrArg String.ofList ((List.map_congr_left hread).trans (List.map_id' _))).trans
    String.ofList_toList

end

end Mailroom.Text
