import Mailroom.Proofs.Text.Trim
import Mailroom.Proofs.Text.Utf8
import Mailroom.Proofs.Web.Keyless
/-!
  Mailroom.Proofs.Web.KeyCheck
  ────────────────────────────────
  **WHO IS LET IN.**

  A request shows at most one key: a bearer token that is not blank, else the last field
  `api_key` of its query.  Where a key is expected, only the request that shows it is let
  in, as long as both keys are ASCII:

      Shows             — the key that a request shows
      shows_of_spelled  — every key can be shown in the query, in every spelling
      check_exact       — what the check says, for every request and every expected key
      foreign_key_shown — a key outside ASCII ends in a fault and not in a refusal
-/
namespace Mailroom.Web

open Mailroom.Text Mailroom.Config

/-! ## §1. What a request shows. -/

/-- A header has a value; of several values the first counts, and the case of its name does
not matter. -/
def Request.Carries (r : Request) (name value : String) : Prop :=
  ∃ before field after, r.headers = before ++ (field, value) :: after ∧ lower field = name ∧
    ∀ earlier ∈ before, lower earlier.1 ≠ name

/-- The value of a header holds a bearer token: behind the mark in any letter case stands the
token, which is not empty, with white space around it. -/
def HoldsToken (header token : String) : Prop :=
  ∃ mark left right : List Char, header.toList = mark ++ (left ++ token.toList ++ right) ∧
    mark.length = tokenMark.length ∧ lowerChars mark = tokenMark.toList ∧
    (∀ c ∈ left, isTrimmed c = true) ∧ (∀ c ∈ right, isTrimmed c = true) ∧
    Trimmed isTrimmed token.toList ∧ token ≠ ""

/-- A field of a query has a value; of several values the last counts. -/
def Asks (query name value : String) : Prop :=
  ∃ before after, fieldsOf query = before ++ (name, value) :: after ∧
    ∀ later ∈ after, later.1 ≠ name

/-- **The key that a request shows**: a bearer token, and where there is none the field
`api_key` of the query. -/
inductive Shows (r : Request) : String → Prop
  | token {header token : String} (carries : r.Carries "authorization" header)
      (holds : HoldsToken header token) : Shows r token
  | field {key : String}
      (bare : ∀ header token, r.Carries "authorization" header → ¬ HoldsToken header token)
      (asks : Asks r.query "api_key" key) : Shows r key

section

variable {r : Request} {name value header token key : String}

theorem header?_eq_some_iff : r.header? name = some value ↔ r.Carries name value := by
  unfold Request.header? Request.Carries
  rw [Option.map_eq_some_iff]
  constructor
  · rintro ⟨⟨field, v⟩, hfind, rfl⟩
    obtain ⟨hfield, before, after, hsplit, hbefore⟩ := List.find?_eq_some_iff_append.1 hfind
    refine ⟨before, field, after, hsplit, beq_iff_eq.1 hfield, fun earlier hmem => ?_⟩
    simpa using hbefore earlier hmem
  · rintro ⟨before, field, after, hsplit, hfield, hbefore⟩
    refine ⟨(field, value), List.find?_eq_some_iff_append.2 ⟨?_, before, after, hsplit, ?_⟩, rfl⟩
    · exact beq_iff_eq.2 hfield
    · intro earlier hmem
      simpa using hbefore earlier hmem

theorem tokenOf?_eq_some_iff : tokenOf? header = some token ↔ HoldsToken header token := by
  unfold tokenOf?
  dsimp only
  rw [Option.ite_none_right_eq_some, Option.filter_eq_some_iff, Option.some.injEq]
  constructor
  · rintro ⟨hmark, htoken, hne⟩
    obtain ⟨left, right, hrest, hleft, hright⟩ :=
      trimWhile_append isTrimmed (header.toList.drop tokenMark.length)
    have htoken : token.toList = trimWhile isTrimmed (header.toList.drop tokenMark.length) := by
      simp [← htoken, trim]
    -- A token that is not empty stands behind the whole mark.
    have hlength : tokenMark.length ≤ header.toList.length := by
      by_contra hshort
      rw [List.drop_eq_nil_of_le (by omega)] at htoken
      have hempty : token = "" := String.toList_eq_nil_iff.1 htoken
      simp [hempty] at hne
    refine ⟨header.toList.take tokenMark.length, left, right, ?_, ?_, beq_iff_eq.1 hmark, hleft,
      hright, ?_, ?_⟩
    · rw [htoken, ← hrest, List.take_append_drop]
    · rw [List.length_take, Nat.min_eq_left hlength]
    · rw [htoken]
      exact trimmed_trimWhile isTrimmed _
    · simpa using hne
  · rintro ⟨mark, left, right, hheader, hlength, hmark, hleft, hright, htrimmed, hne⟩
    have htake : header.toList.take tokenMark.length = mark := by
      rw [hheader, ← hlength, List.take_left]
    have hdrop : header.toList.drop tokenMark.length = left ++ token.toList ++ right := by
      rw [hheader, ← hlength, List.drop_left]
    refine ⟨?_, ?_, by simpa using hne⟩
    · rw [htake, hmark]
      exact beq_self_eq_true _
    · rw [hdrop, trim, String.toList_ofList, trimWhile_append_right hright,
        trimWhile_append_left hleft, htrimmed.trimWhile_eq, String.ofList_toList]

theorem lastValue?_eq_some_iff {query : String} :
    lastValue? query name = some value ↔ Asks query name value := by
  unfold lastValue? Asks
  rw [Option.map_eq_some_iff]
  constructor
  · rintro ⟨⟨n, v⟩, hfind, rfl⟩
    obtain ⟨hname, after, before, hsplit, hafter⟩ := List.find?_eq_some_iff_append.1 hfind
    obtain rfl := beq_iff_eq.1 hname
    refine ⟨before.reverse, after.reverse, ?_, fun later hmem => ?_⟩
    · rw [← List.reverse_reverse (fieldsOf query), hsplit]
      simp
    · simpa using hafter later (List.mem_reverse.1 hmem)
  · rintro ⟨before, after, hsplit, hafter⟩
    refine ⟨(name, value), List.find?_eq_some_iff_append.2
      ⟨beq_self_eq_true _, after.reverse, before.reverse, ?_, ?_⟩, rfl⟩
    · rw [hsplit]
      simp
    · intro later hmem
      simpa using hafter later (List.mem_reverse.1 hmem)

/-- **A request shows the key that is found in it**, and no other. -/
theorem shows_iff : Shows r key ↔ r.key? = some key := by
  unfold Request.key?
  constructor
  · rintro (⟨hcarries, hholds⟩ | ⟨hbare, hasks⟩)
    · rw [header?_eq_some_iff.2 hcarries, Option.bind_some, tokenOf?_eq_some_iff.2 hholds]
    · cases htoken : (r.header? "authorization").bind tokenOf? with
      | none => exact lastValue?_eq_some_iff.2 hasks
      | some token =>
        obtain ⟨header, hheader, htoken⟩ := Option.bind_eq_some_iff.1 htoken
        exact absurd (tokenOf?_eq_some_iff.1 htoken) (hbare _ _ (header?_eq_some_iff.1 hheader))
  · intro hkey
    cases htoken : (r.header? "authorization").bind tokenOf? with
    | some token =>
      rw [htoken] at hkey
      obtain rfl := Option.some.inj hkey
      obtain ⟨header, hheader, htoken⟩ := Option.bind_eq_some_iff.1 htoken
      exact .token (header?_eq_some_iff.1 hheader) (tokenOf?_eq_some_iff.1 htoken)
    | none =>
      rw [htoken] at hkey
      refine .field (fun header token hcarries hholds => ?_) (lastValue?_eq_some_iff.1 hkey)
      rw [header?_eq_some_iff.2 hcarries, Option.bind_some, tokenOf?_eq_some_iff.2 hholds] at htoken
      cases htoken

end

/-! ## §2. Keys in a query. -/

/-- A text in a query spells octets: an ASCII character spells its own octet, a plus sign a
blank, and a percent sign with two hexadecimal digits any octet. -/
inductive Spells : List Char → List UInt8 → Prop
  | nil : Spells [] []
  | plain {c : Char} {cs : List Char} {bs : List UInt8} (ascii : c.toNat < 128)
      (unreserved : c ≠ '%' ∧ c ≠ '+' ∧ c ≠ '&') (rest : Spells cs bs) :
      Spells (c :: cs) (UInt8.ofNat c.toNat :: bs)
  | plus {cs : List Char} {bs : List UInt8} (rest : Spells cs bs) : Spells ('+' :: cs) (32 :: bs)
  | percent {c d : Char} {m n : Nat} {cs : List Char} {bs : List UInt8}
      (high : hexDigit? c = some m) (low : hexDigit? d = some n) (rest : Spells cs bs) :
      Spells ('%' :: c :: d :: cs) (UInt8.ofNat (16 * m + n) :: bs)

section

variable {c d : Char} {m n : Nat} {cs : List Char} {bs : List UInt8}

theorem hexDigit?_bound (h : hexDigit? c = some n) : c.toNat < 128 ∧ c ≠ '+' ∧ c ≠ '&' := by
  have hplus : hexDigit? '+' = none := by decide
  have hmark : hexDigit? '&' = none := by decide
  refine ⟨?_, ?_, ?_⟩
  · unfold hexDigit? at h
    grind
  · rintro rfl
    rw [hplus] at h
    cases h
  · rintro rfl
    rw [hmark] at h
    cases h

theorem ofNat_octet (h : c.toNat < 128) : Char.ofNat (UInt8.ofNat c.toNat).toNat = c := by
  rw [toNat_octet (by omega), Char.ofNat_toNat]

/-- Two digits behind a percent sign are read as the octet that they spell. -/
theorem pair?_hex (hc : hexDigit? c = some m) (hd : hexDigit? d = some n) :
    QuotedPrintable.pair? (UInt8.ofNat c.toNat) (UInt8.ofNat d.toNat)
      = some (UInt8.ofNat (16 * m + n)) := by
  unfold QuotedPrintable.pair? QuotedPrintable.hexValue?
  rw [ofNat_octet (hexDigit?_bound hc).1, ofNat_octet (hexDigit?_bound hd).1, hc, hd]

theorem percentDecoded_plain {b : UInt8} (hb : b ≠ 37) (bs : List UInt8) :
    percentDecoded 0 (b :: bs) = b :: percentDecoded 0 bs := by
  match bs with
  | [] | [_] | _ :: _ :: _ => simp [percentDecoded, hb]

/-- The octets of a text in a query, its plus signs read as blanks. -/
def spacedOctets (cs : List Char) : List UInt8 :=
  (cs.map fun c => if c == '+' then ' ' else c).map fun c => UInt8.ofNat c.toNat

theorem spacedOctets_plain (hc : c ≠ '+') (cs : List Char) :
    spacedOctets (c :: cs) = UInt8.ofNat c.toNat :: spacedOctets cs := by
  simp [spacedOctets, hc]

/-- Every spelling is read as the octets that it spells. -/
theorem Spells.decoded (h : Spells cs bs) : percentDecoded 0 (spacedOctets cs) = bs := by
  induction h with
  | nil => rfl
  | @plain c cs bs hascii hunreserved _ ih =>
    have hb : UInt8.ofNat c.toNat ≠ 37 := by
      intro heq
      have hc := ofNat_octet hascii
      rw [heq] at hc
      exact hunreserved.1 hc.symm
    rw [spacedOctets_plain hunreserved.2.1, percentDecoded_plain hb, ih]
  | @plus cs bs _ ih =>
    have hcons : spacedOctets ('+' :: cs) = 32 :: spacedOctets cs := rfl
    rw [hcons, percentDecoded_plain (by decide), ih]
  | @percent c d m n cs bs hc hd _ ih =>
    have hcons : spacedOctets ('%' :: c :: d :: cs)
        = 37 :: UInt8.ofNat c.toNat :: UInt8.ofNat d.toNat :: spacedOctets cs := by
      rw [spacedOctets_plain (by decide), spacedOctets_plain (hexDigit?_bound hc).2.1,
        spacedOctets_plain (hexDigit?_bound hd).2.1]
      rfl
    rw [hcons, percentDecoded, if_pos (by decide)]
    simp only [pair?_hex hc hd, percentDecoded, ih]

theorem Spells.ascii (h : Spells cs bs) : ∀ c ∈ cs, c.toNat < 128 := by
  induction h with
  | nil => nofun
  | plain hascii _ _ ih => exact List.forall_mem_cons.2 ⟨hascii, ih⟩
  | plus _ ih => exact List.forall_mem_cons.2 ⟨by decide, ih⟩
  | percent hc hd _ ih =>
    refine List.forall_mem_cons.2 ⟨by decide, List.forall_mem_cons.2 ⟨(hexDigit?_bound hc).1, ?_⟩⟩
    exact List.forall_mem_cons.2 ⟨(hexDigit?_bound hd).1, ih⟩

theorem Spells.no_mark (h : Spells cs bs) : ∀ c ∈ cs, c ≠ '&' := by
  induction h with
  | nil => nofun
  | plain _ hunreserved _ ih => exact List.forall_mem_cons.2 ⟨hunreserved.2.2, ih⟩
  | plus _ ih => exact List.forall_mem_cons.2 ⟨by decide, ih⟩
  | percent hc hd _ ih =>
    refine List.forall_mem_cons.2 ⟨by decide, List.forall_mem_cons.2 ⟨(hexDigit?_bound hc).2.2, ?_⟩⟩
    exact List.forall_mem_cons.2 ⟨(hexDigit?_bound hd).2.2, ih⟩

/-- Text that is ASCII throughout is one run. -/
theorem asciiRuns_ascii (h : ∀ c ∈ cs, isAscii c = true) :
    asciiRuns cs = if cs = [] then [] else [(true, cs)] := by
  induction cs with
  | nil => rfl
  | cons c cs ih =>
    obtain ⟨hc, hcs⟩ := List.forall_mem_cons.1 h
    rw [asciiRuns, ih hcs, if_neg (List.cons_ne_nil c cs)]
    by_cases hnil : cs = []
    · simp [hnil, hc]
    · simp [hnil, hc]

/-- What spells the octets of a text stands for the text. -/
theorem Spells.unescaped {s : String} (h : Spells cs (encodeChars s.toList)) :
    unescaped cs = s := by
  have hascii : ∀ c ∈ cs.map (fun c => if c == '+' then ' ' else c), isAscii c = true := by
    intro c hc
    obtain ⟨d, hd, rfl⟩ := List.mem_map.1 hc
    split
    · decide
    · simpa [isAscii] using h.ascii d hd
  have hread := h.decoded
  unfold spacedOctets at hread
  unfold Web.unescaped
  dsimp only
  rw [asciiRuns_ascii hascii]
  generalize cs.map (fun c => if c == '+' then ' ' else c) = spaced at hread ⊢
  split
  next hnil =>
    rw [hnil] at hread
    have hempty : decodeChars (encodeChars s.toList) = [] := by rw [← hread]; rfl
    rw [decodeChars_encodeChars] at hempty
    exact (String.toList_eq_nil_iff.1 hempty).symm
  next =>
    simp [hread, decodeChars_encodeChars]

theorem splitOn_eq_singleton {α : Type} {p : α → Bool} {xs : List α}
    (h : ∀ x ∈ xs, p x = false) : splitOn p xs = [xs] := by
  induction xs with
  | nil => rfl
  | cons x xs ih =>
    obtain ⟨hx, hxs⟩ := List.forall_mem_cons.1 h
    simp [splitOn, hx, ih hxs]

/-- **Every key can be shown in the query**, in every spelling of its octets. -/
theorem asks_of_spelled {key : String} (h : Spells cs (encodeChars key.toList)) :
    Asks (String.ofList ("api_key=".toList ++ cs)) "api_key" key := by
  have hfront : ("api_key=".toList.all fun c => !(c == '&')) = true := by decide
  have hone : ∀ c ∈ "api_key=".toList ++ cs, (c == '&') = false := by
    intro c hc
    rcases List.mem_append.1 hc with hc | hc
    · simpa using List.all_eq_true.1 hfront c hc
    · exact beq_false_of_ne (h.no_mark c hc)
  refine ⟨[], [], ?_, nofun⟩
  unfold fieldsOf
  rw [String.toList_ofList, splitOn_eq_singleton hone]
  have hname : unescaped "api_key".toList = "api_key" := by decide +kernel
  show [(unescaped "api_key".toList, unescaped cs)] = [("api_key", key)]
  rw [hname, h.unescaped]

end

/-! ## §3. The check. -/

/-- A text of ASCII characters only. -/
def Plain (s : String) : Prop := ∀ c ∈ s.toList, c.toNat < 128

section

variable {r : Request} {expected : Option String} {key shown : String}

theorem isAsciiText_iff {s : String} : isAsciiText s = true ↔ Plain s := by
  simp [isAsciiText, Plain, isAscii]

instance (s : String) : Decidable (Plain s) := decidable_of_iff _ isAsciiText_iff

theorem compareKeys_plain (h : Plain shown ∧ Plain key) :
    compareKeys shown key = .ok (if shown = key then .allowed else .rejected) := by
  unfold compareKeys
  rw [isAsciiText_iff.2 h.1, isAsciiText_iff.2 h.2, Bool.true_and, if_pos rfl]
  simp only [beq_iff_eq]

theorem compareKeys_foreign (h : ¬ (Plain shown ∧ Plain key)) :
    compareKeys shown key = .error .notAscii := by
  unfold compareKeys
  rw [if_neg]
  rw [Bool.and_eq_true, isAsciiText_iff, isAsciiText_iff]
  exact h

/-- **What the check says**, with one case for each outcome. -/
inductive Checked (r : Request) (expected : Option String) : Except KeyFault Verdict → Prop
  | unlocked (blank : ∀ key, expected = some key → key = "") : Checked r expected (.ok .allowed)
  | known {key : String} (expects : expected = some key) (given : key ≠ "") (shows : Shows r key)
      (plain : Plain key) : Checked r expected (.ok .allowed)
  | unknown {key : String} (expects : expected = some key) (given : key ≠ "")
      (other : ∀ shown, Shows r shown → shown ≠ key ∧ Plain shown ∧ Plain key) :
      Checked r expected (.ok .rejected)
  | incomparable {key shown : String} (expects : expected = some key) (given : key ≠ "")
      (shows : Shows r shown) (foreign : ¬ (Plain shown ∧ Plain key)) :
      Checked r expected (.error .notAscii)

/-- The check has the outcome that is stated for it. -/
theorem checked_check (r : Request) (expected : Option String) :
    Checked r expected (check r expected) := by
  cases hkey : expected.filter (· != "") with
  | none =>
    have hblank : ∀ key, expected = some key → key = "" := by
      rintro key rfl
      simpa using hkey
    unfold check
    rw [hkey]
    exact .unlocked hblank
  | some key =>
    obtain ⟨hexpected, hne⟩ := Option.filter_eq_some_iff.1 hkey
    have hne : key ≠ "" := by simpa using hne
    unfold check
    rw [hkey]
    dsimp only
    cases hshown : r.key? with
    | none =>
      refine .unknown hexpected hne fun shown hshows => ?_
      rw [shows_iff, hshown] at hshows
      cases hshows
    | some shown =>
      have hshows : Shows r shown := shows_iff.2 hshown
      dsimp only
      by_cases hplain : Plain shown ∧ Plain key
      · rw [compareKeys_plain hplain]
        by_cases heq : shown = key
        · rw [if_pos heq]
          exact .known hexpected hne (heq ▸ hshows) hplain.2
        · rw [if_neg heq]
          refine .unknown hexpected hne fun other hother => ?_
          obtain rfl : shown = other :=
            Option.some.inj (hshown.symm.trans (shows_iff.1 hother))
          exact ⟨heq, hplain⟩
      · rw [compareKeys_foreign hplain]
        exact .incomparable hexpected hne hshows hplain

/-- No two of the cases go together. -/
theorem Checked.unique {x y : Except KeyFault Verdict} (hx : Checked r expected x)
    (hy : Checked r expected y) : x = y := by
  cases hx <;> cases hy <;> grind [shows_iff]

theorem check_eq_iff {x : Except KeyFault Verdict} :
    check r expected = x ↔ Checked r expected x :=
  ⟨fun h => h ▸ checked_check r expected, fun h => (checked_check r expected).unique h⟩

/-- A guarded entrance lets in whom the check allows. -/
theorem guarded_allowed {s : Settings} {next : Handler}
    (h : check r s.server.apiKey = .ok .allowed) :
    (guarded s r next).run = next.run := by
  unfold guarded
  rw [h]

/-- **The key decides, and nothing but the key.**  Everybody is allowed where no key is
expected; otherwise who shows the key, provided that it is ASCII.  Who shows no key, or another
one, is rejected, which is the response 403 at every guarded entrance.  There is no verdict
exactly if a key is shown and it or the expected one is not ASCII.  Any key can be shown in the
query by a request without a token. -/
theorem check_exact (r : Request) (expected : Option String) :
    (check r expected = .ok .allowed ↔
      (∀ key, expected = some key → key = "") ∨
        ∃ key, expected = some key ∧ Shows r key ∧ Plain key) ∧
    (check r expected = .ok .rejected ↔
      ∃ key, expected = some key ∧ key ≠ "" ∧
        ∀ shown, Shows r shown → shown ≠ key ∧ Plain shown ∧ Plain key) ∧
    ((∃ e, check r expected = .error e) ↔
      ∃ key shown, expected = some key ∧ key ≠ "" ∧ Shows r shown ∧
        ¬ (Plain shown ∧ Plain key)) ∧
    (∀ (s : Settings) (next : Handler), s.server.apiKey = expected →
      (check r expected = .ok .allowed → (guarded s r next).run = next.run) ∧
      (check r expected = .ok .rejected →
        (guarded s r next).run = .pure (.ok forbidden) ∧ forbidden.status = 403)) ∧
    ∀ key cs, (∀ header token, r.Carries "authorization" header → ¬ HoldsToken header token) →
      r.query = String.ofList ("api_key=".toList ++ cs) → Spells cs (encodeChars key.toList) →
      Shows r key := by
  refine ⟨?_, ?_, ?_, ?_, ?_⟩
  · rw [check_eq_iff]
    constructor
    · rintro (hblank | ⟨hexpects, hgiven, hshows, hplain⟩)
      · exact .inl hblank
      · exact .inr ⟨_, hexpects, hshows, hplain⟩
    · rintro (hblank | ⟨key, rfl, hshows, hplain⟩)
      · exact .unlocked hblank
      · by_cases hgiven : key = ""
        · exact .unlocked fun other hother => (Option.some.inj hother).symm.trans hgiven
        · exact .known rfl hgiven hshows hplain
  · rw [check_eq_iff]
    constructor
    · intro h
      cases h with
      | unknown hexpects hgiven hother => exact ⟨_, hexpects, hgiven, hother⟩
    · rintro ⟨key, rfl, hgiven, hother⟩
      exact .unknown rfl hgiven hother
  · simp only [check_eq_iff]
    constructor
    · rintro ⟨e, h⟩
      cases h with
      | incomparable hexpects hgiven hshows hforeign =>
        exact ⟨_, _, hexpects, hgiven, hshows, hforeign⟩
    · rintro ⟨key, shown, rfl, hgiven, hshows, hforeign⟩
      exact ⟨_, .incomparable rfl hgiven hshows hforeign⟩
  · rintro s next rfl
    refine ⟨guarded_allowed, fun h => ⟨?_, rfl⟩⟩
    have hdenied : check r s.server.apiKey ≠ .ok .allowed := by
      rw [h]
      nofun
    rw [guarded_denied hdenied, h]
    rfl
  · intro key cs hbare hquery hspells
    refine .field hbare ?_
    rw [hquery]
    exact asks_of_spelled hspells

end

namespace Sample

/-- A caller whose only header is not about a key and who writes the key `a key` in the query,
one character by its number and the blank as a plus sign. -/
def caller : Request where
  path := "/mcp/"
  query := "api_key=%61+key"
  headers := [("Accept", "application/json")]

/-- A caller with the one letter `é` for a token. -/
def stranger : Request where
  path := "/mcp/"
  headers := [("Authorization", "Bearer \u00e9")]

end Sample

open Sample in
theorem check_exact_sample :
    Spells "%61+key".toList (encodeChars "a key".toList) ∧ Shows caller "a key" ∧
      check caller (some "a key") = .ok .allowed ∧ check caller (some "other") = .ok .rejected := by
  have hspells : Spells "%61+key".toList (encodeChars "a key".toList) :=
    .percent (m := 6) (n := 1) (by decide) (by decide)
      (.plus (.plain (by decide) (by decide)
        (.plain (by decide) (by decide) (.plain (by decide) (by decide) .nil))))
  have hbare : ∀ header token, caller.Carries "authorization" header →
      ¬ HoldsToken header token := by
    intro header token hcarries
    have hnone : caller.header? "authorization" = none := by decide +kernel
    rw [header?_eq_some_iff.2 hcarries] at hnone
    cases hnone
  have hshows := (check_exact caller none).2.2.2.2 "a key" _ hbare rfl hspells
  have hplain : Plain "a key" ∧ Plain "other" := by decide
  refine ⟨hspells, hshows, (check_exact caller _).1.2 (.inr ⟨_, rfl, hshows, hplain.1⟩), ?_⟩
  refine (check_exact caller _).2.1.2 ⟨_, rfl, by decide, fun shown hother => ?_⟩
  obtain rfl := Option.some.inj ((shows_iff.1 hshows).symm.trans (shows_iff.1 hother))
  exact ⟨by decide, hplain⟩

open Sample in
/-- A caller who shows a key outside ASCII is neither let in nor turned away. -/
theorem foreign_key_shown :
    ¬ ∀ (r : Request) (key : String), key ≠ "" →
      check r (some key) = .ok .allowed ∨ check r (some key) = .ok .rejected := by
  intro h
  have hfault : check stranger (some "s3cret") = .error .notAscii := by decide +kernel
  rcases h stranger "s3cret" (by decide) with hok | hok <;> rw [hfault] at hok <;> cases hok

end Mailroom.Web
