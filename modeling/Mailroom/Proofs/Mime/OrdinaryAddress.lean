import Mailroom.Mime.Address
import Mailroom.Mime.MessageId
/-!
  Mailroom.Proofs.Mime.OrdinaryAddress
  ────────────────────────────────
  **ORDINARY ADDRESSES ARE ALWAYS READ.**

  The readers of addresses stop with a fault on some texts.  On the ordinary ones they
  never do, that is, on lists such as

      ann@x.com, Ann Example <ann.e@mail.x.com>, b@x

  where every word is free of characters with a meaning of their own.

      Dotted         — words joined by full stops
      Ordinary       — an address, or a name in front of one in angle brackets
      entry_ordinary — an ordinary entry is a mailbox that can be shown, whatever follows it
      addressList_ok — a list of ordinary entries is read and shown
      messageId_ok   — and so is an identifier
-/
namespace Mailroom.Mime

open Mailroom.Text

/-! ## §1. Ordinary texts. -/

/-- A character without a meaning of its own: it ends no atom, it is no white space, and no
encoded word starts with it. -/
def isPlain (g : Glyph) : Bool := !endsAtom g && !g.isTrim && !g.is '='

/-- A word of such characters. -/
structure PlainWord (gs : Glyphs) : Prop where
  filled : gs ≠ []
  plain : ∀ g ∈ gs, isPlain g = true

/-- Words joined by full stops, and the tokens as which they are read. -/
inductive Dotted : List Token → Glyphs → Prop
  | word {w : Glyphs} (h : PlainWord w) : Dotted [.text w] w
  | more {w gs : Glyphs} {ts : List Token} (h : PlainWord w) (rest : Dotted ts gs) :
      Dotted (.text w :: .dot :: ts) (w ++ .char '.' :: gs)

/-- Words, each with a space behind it. -/
def spaced (ws : List Glyphs) : Glyphs := ws.flatMap (· ++ [.char ' '])

/-- **An ordinary entry of a list of addresses**, with a name or without one. -/
inductive Ordinary : Glyphs → Prop
  | bare {ts us : List Token} {l d : Glyphs} (localPart : Dotted ts l) (domain : Dotted us d) :
      Ordinary (l ++ .char '@' :: d)
  | named {ws : List Glyphs} {ts us : List Token} {l d : Glyphs} (filled : ws ≠ [])
      (name : ∀ w ∈ ws, PlainWord w) (localPart : Dotted ts l) (domain : Dotted us d) :
      Ordinary (spaced ws ++ .char '<' :: (l ++ .char '@' :: (d ++ [.char '>'])))

/-- Ordinary entries with a comma and a space between them. -/
inductive OrdinaryList : Glyphs → Prop
  | one {a : Glyphs} (h : Ordinary a) : OrdinaryList a
  | more {a gs : Glyphs} (h : Ordinary a) (rest : OrdinaryList gs) :
      OrdinaryList (a ++ .char ',' :: .char ' ' :: gs)

/-! ## §2. Characters and blanks. -/

section

variable {g : Glyph} {w gs rest : Glyphs} {cs : List Char} {c : Char}

theorem Glyph.is_eq_false (h : g.oneOf cs = false) (hc : c ∈ cs) : g.is c = false := by
  cases g with
  | octet b => rfl
  | char d =>
    simp only [Glyph.oneOf, Glyph.sat, List.contains_eq_mem, decide_eq_false_iff_not] at h
    simp only [Glyph.is, Glyph.sat, beq_eq_false_iff_ne, ne_eq]
    rintro rfl
    exact h hc

theorem Glyph.oneOf_mono {ds : List Char} (h : g.oneOf ds = false) (hcs : cs ⊆ ds) :
    g.oneOf cs = false := by
  cases g with
  | octet b => rfl
  | char d =>
    simp only [Glyph.oneOf, Glyph.sat, List.contains_eq_mem, decide_eq_false_iff_not] at h ⊢
    exact fun hd => h (hcs hd)

theorem isPlain_iff : isPlain g = true ↔
    (g.oneOf specials = false ∧ g.isWsp = false) ∧ g.isTrim = false ∧ g.is '=' = false := by
  simp [isPlain, endsAtom, and_assoc]

theorem not_special_of_plain (h : isPlain g = true) (hc : c ∈ specials) : g.is c = false :=
  Glyph.is_eq_false (isPlain_iff.1 h).1.1 hc

theorem startsCfws_of_plain (h : isPlain g = true) : startsCfws g = false := by
  rw [startsCfws, (isPlain_iff.1 h).1.2, not_special_of_plain h (by decide), Bool.or_false]

theorem endsPhrase_of_plain (h : isPlain g = true) : endsPhrase g = false :=
  Glyph.oneOf_mono (isPlain_iff.1 h).1.1 (by decide)

theorem isLineBreak_of_plain (h : isPlain g = true) : isLineBreak g = false := by
  have htrim : g.isTrim = false := (isPlain_iff.1 h).2.1
  cases g with
  | octet b => rfl
  | char d =>
    simp only [isLineBreak, Glyph.is, Glyph.sat, Bool.or_eq_false_iff, beq_eq_false_iff_ne, ne_eq]
    constructor <;> rintro rfl <;> exact absurd htrim (by decide)

/-- What follows a text is one of some characters, or nothing does. -/
def Stopped (ends : List Char) (rest : Glyphs) : Prop :=
  ∀ g ∈ rest.head?, ∃ c ∈ ends, g = .char c

theorem Stopped.nil {ends : List Char} : Stopped ends [] := by
  rintro _ ⟨⟩

theorem Stopped.cons {ends : List Char} (hc : c ∈ ends) : Stopped ends (.char c :: rest) := by
  rintro _ ⟨⟩
  exact ⟨c, hc, rfl⟩

theorem Stopped.mono {ends ends' : List Char} (h : Stopped ends rest) (hsub : ends ⊆ ends') :
    Stopped ends' rest := by
  intro g hg
  obtain ⟨c, hc, rfl⟩ := h g hg
  exact ⟨c, hsub hc, rfl⟩

/-- A test on which all the characters agree that may follow. -/
theorem Stopped.all {ends : List Char} {p : Glyph → Bool} {v : Bool} (h : Stopped ends rest)
    (hp : (ends.all fun c => p (.char c) == v) = true) : ∀ g ∈ rest.head?, p g = v := by
  intro g hg
  obtain ⟨c, hc, rfl⟩ := h g hg
  exact beq_iff_eq.1 (List.all_eq_true.1 hp c hc)

theorem PlainWord.exists_cons (h : PlainWord w) : ∃ g r, w = g :: r ∧ isPlain g = true := by
  obtain ⟨g, r, rfl⟩ := List.exists_cons_of_ne_nil h.filled
  exact ⟨g, r, rfl, h.plain g List.mem_cons_self⟩

theorem takeCfws_solid (h : ∀ g ∈ rest.head?, startsCfws g = false) :
    takeCfws rest = (none, rest) := by
  cases rest with
  | nil => rfl
  | cons g r => simp [takeCfws, h g rfl]

/-- A space, or nothing: as comments and white space, and as it is written. -/
inductive Blank : Option Glyphs → Glyphs → Prop
  | none : Blank none []
  | space : Blank (some [.char ' ']) [.char ' ']

variable {lead : Option Glyphs} {b : Glyphs}

/-- A blank in front of what is no white space. -/
theorem Blank.takeCfws (hb : Blank lead b) (hg : startsCfws g = false) (htrim : g.isTrim = false) :
    takeCfws (b ++ g :: rest) = (lead, g :: rest) := by
  cases hb with
  | none => exact takeCfws_solid (by rintro _ ⟨⟩; exact hg)
  | space =>
    obtain ⟨hwsp, hopen⟩ : g.isWsp = false ∧ g.is '(' = false := by simpa [startsCfws] using hg
    have hspace : (Glyph.char ' ').isTrim = true := rfl
    have hblanks : takeBlanks (.char ' ' :: g :: rest) = ([.char ' '], g :: rest) := by
      simp [takeBlanks, htrim, hspace]
    simp [Mime.takeCfws, show startsCfws (.char ' ') = true from rfl, cfwsFrom, hblanks,
      show (Glyph.char ' ').isWsp = true from rfl, hwsp, hopen]

theorem Blank.takeCfws_plain (hb : Blank lead b) (hg : isPlain g = true) :
    Mime.takeCfws (b ++ g :: rest) = (lead, g :: rest) :=
  hb.takeCfws (startsCfws_of_plain hg) (isPlain_iff.1 hg).2.1

end

/-! ## §3. Words. -/

section

variable {g : Glyph} {w gs rest rest' : Glyphs} {ts : List Token} {lead after : Option Glyphs}
  {b : Glyphs}

theorem wordAt_of_ne (h : g.is '=' = false) : wordAt (g :: rest) = .other := by
  cases rest with
  | nil => rfl
  | cons a r => simp [wordAt, h]

theorem encodedOr_of_ne {other : Reader Token} (h : g.is '=' = false) :
    encodedOr other (g :: rest) = other (g :: rest) := by
  rw [encodedOr, wordAt_of_ne h]

/-- A word is read up to what ends an atom. -/
theorem atext_append (h : PlainWord w) (hrest : ∀ g ∈ rest.head?, endsAtom g = true) :
    atext (w ++ rest) = .ok (.text w, rest) := by
  have hword : ∀ g ∈ w, (!endsAtom g) = true := by
    intro g hg
    obtain ⟨⟨hspecial, hwsp⟩, -⟩ := isPlain_iff.1 (h.plain g hg)
    simp [endsAtom, hspecial, hwsp]
  have hrun : (w ++ rest).takeWhile (!endsAtom ·) = w := by
    rw [List.takeWhile_append_of_pos hword]
    cases rest with
    | nil => simp
    | cons g r => simp [hrest g rfl]
  simp [atext, hrun, h.filled]

theorem atom_append (h : PlainWord w) (hrest : ∀ g ∈ rest.head?, endsAtom g = true)
    (hafter : takeCfws rest = (after, rest')) :
    atom (w ++ rest) = .ok (.node (.text w :: cfwsToken after), rest') := by
  obtain ⟨g, r, rfl, hg⟩ := h.exists_cons
  have hbefore : takeCfws (g :: (r ++ rest)) = (none, g :: (r ++ rest)) :=
    Blank.none.takeCfws_plain hg
  have hatext : encodedOr atext (g :: (r ++ rest)) = .ok (.text (g :: r), rest) := by
    rw [encodedOr_of_ne (isPlain_iff.1 hg).2.2]
    exact atext_append h hrest
  simp only [atom, surrounded, List.cons_append, hbefore, hatext]
  simp only [bind, Except.bind, hafter]
  rfl

/-- A word of a phrase, with a blank in front of it. -/
theorem word_append (hb : Blank lead b) (h : PlainWord w)
    (hrest : ∀ g ∈ rest.head?, endsAtom g = true) (hafter : takeCfws rest = (after, rest')) :
    word (b ++ (w ++ rest)) =
      .ok ((Token.node (.text w :: cfwsToken after)).withLeader lead, rest') := by
  have hatom := atom_append h hrest hafter
  obtain ⟨g, r, rfl, hg⟩ := h.exists_cons
  rw [List.cons_append] at hatom ⊢
  have hfilled : (b ++ g :: (r ++ rest)).isEmpty = false := by simp
  have hquote : g.is '"' = false := not_special_of_plain hg (by decide)
  simp only [word, hfilled, Bool.false_eq_true, if_false, hb.takeCfws_plain hg, hquote,
    (isPlain_iff.1 hg).1.1, hatom]
  rfl

/-- A phrase goes on behind a word. -/
theorem phraseFrom_word {fuel : Nat} {more : List Token} {behind : Glyphs} (hb : Blank lead b)
    (h : PlainWord w) (hrest : ∀ g ∈ rest.head?, endsAtom g = true)
    (hafter : takeCfws rest = (after, rest')) (hmore : phraseFrom fuel rest' = .ok (more, behind)) :
    phraseFrom (fuel + 1) (b ++ (w ++ rest)) =
      .ok ((Token.node (.text w :: cfwsToken after)).withLeader lead :: more, behind) := by
  have hword := word_append hb h hrest hafter
  obtain ⟨g, r, hgr, hphrase, hdot⟩ : ∃ g r, b ++ (w ++ rest) = g :: r ∧
      endsPhrase g = false ∧ g.is '.' = false := by
    cases hb with
    | none =>
      obtain ⟨g, r, rfl, hg⟩ := h.exists_cons
      exact ⟨g, r ++ rest, rfl, endsPhrase_of_plain hg, not_special_of_plain hg (by decide)⟩
    | space => exact ⟨_, _, rfl, rfl, rfl⟩
  rw [hgr] at hword ⊢
  simp only [phraseFrom, hphrase, hdot, Bool.false_eq_true, if_false, hword, bind, Except.bind,
    hmore]
  rfl

end

/-! ## §4. Local parts and domains. -/

section

variable {gs l d rest : Glyphs} {ts us : List Token} {lead : Option Glyphs} {b : Glyphs}

theorem Dotted.exists_cons (h : Dotted ts gs) : ∃ g r, gs = g :: r ∧ isPlain g = true := by
  cases h with
  | word h => exact h.exists_cons
  | more h _ =>
    obtain ⟨g, r, rfl, hg⟩ := h.exists_cons
    exact ⟨g, _, rfl, hg⟩

theorem Dotted.meaning (h : Dotted ts gs) : Token.meaningAll ts = gs := by
  induction h with
  | word _ => simp [Token.meaningAll, Token.meaning]
  | more _ _ ih => simp [Token.meaningAll, Token.meaning, ih]

theorem Dotted.first (h : Dotted ts gs) : ∃ w us, ts = .text w :: us := by
  cases h with
  | word _ => exact ⟨_, _, rfl⟩
  | more _ _ => exact ⟨_, _, rfl⟩

theorem Dotted.last (h : Dotted ts gs) : ∃ w us, ts.reverse = .text w :: us := by
  induction h with
  | word _ => exact ⟨_, _, rfl⟩
  | more _ _ ih =>
    obtain ⟨w, us, hus⟩ := ih
    exact ⟨w, us ++ [.dot] ++ [.text _], by rw [List.reverse_cons, List.reverse_cons, hus]; rfl⟩

theorem Dotted.unbroken (h : Dotted ts gs) : ∀ g ∈ gs, isLineBreak g = false := by
  induction h with
  | word h => exact fun g hg => isLineBreak_of_plain (h.plain g hg)
  | more h _ ih =>
    intro g hg
    obtain hg | rfl | hg : g ∈ _ ∨ g = .char '.' ∨ g ∈ _ := by simpa using hg
    · exact isLineBreak_of_plain (h.plain g hg)
    · rfl
    · exact ih g hg

/-- The characters behind a local part, a domain and an entry of a list. -/
def ends : List Char := ['@', '<', '>', ',']

theorem dotAtomFrom_dotted (h : Dotted ts gs) (hrest : Stopped ends rest) :
    ∀ fuel, gs.length < fuel → dotAtomFrom fuel (gs ++ rest) = .ok (ts, rest) := by
  have hends : ∀ g ∈ rest.head?, endsAtom g = true := hrest.all (by decide)
  have hdot : ∀ g ∈ rest.head?, g.is '.' = false := hrest.all (by decide)
  induction h with
  | word h =>
    intro fuel hfuel
    obtain ⟨n, rfl⟩ := Nat.exists_eq_add_one_of_ne_zero (Nat.ne_zero_of_lt hfuel)
    simp only [dotAtomFrom, atext_append h hends, bind, Except.bind]
    cases rest with
    | nil => rfl
    | cons g r => simp only [hdot g rfl, Bool.false_eq_true, if_false]; rfl
  | @more w gs _ h _ ih =>
    intro fuel hfuel
    obtain ⟨n, rfl⟩ := Nat.exists_eq_add_one_of_ne_zero (Nat.ne_zero_of_lt hfuel)
    have hbehind : ∀ g ∈ (Glyph.char '.' :: (gs ++ rest)).head?, endsAtom g = true := by
      rintro _ ⟨⟩
      rfl
    have hmore := ih n (by simp only [List.length_append, List.length_cons] at hfuel; omega)
    simp only [dotAtomFrom, List.append_assoc, List.cons_append, atext_append h hbehind, bind,
      Except.bind, show (Glyph.char '.').is '.' = true from rfl, if_true, hmore]
    rfl

theorem dotAtomText_dotted (h : Dotted ts gs) (hrest : Stopped ends rest) :
    dotAtomText (gs ++ rest) = .ok (.node ts, rest) := by
  have hparts := dotAtomFrom_dotted h hrest ((gs ++ rest).length + 1) (by
    simp only [List.length_append]
    omega)
  simp only [dotAtomText, hparts]
  rfl

theorem dotAtom_dotted (h : Dotted ts gs) (hrest : Stopped ends rest) :
    dotAtom (gs ++ rest) = .ok (.node [.node ts], rest) := by
  have htext := dotAtomText_dotted h hrest
  have hafter : takeCfws rest = (none, rest) := takeCfws_solid (hrest.all (by decide))
  obtain ⟨g, r, rfl, hg⟩ := h.exists_cons
  rw [List.cons_append] at htext ⊢
  have hbefore : takeCfws (g :: (r ++ rest)) = (none, g :: (r ++ rest)) :=
    Blank.none.takeCfws_plain hg
  simp only [dotAtom, surrounded, hbefore, encodedOr_of_ne (isPlain_iff.1 hg).2.2, htext, bind,
    Except.bind, hafter]
  rfl

/-- A local part is read up to its end, and what is in front of it is kept. -/
theorem localPart_dotted (hb : Blank lead b) (h : Dotted ts gs) (hrest : Stopped ends rest) :
    localPart (b ++ (gs ++ rest)) = .ok (cfwsToken lead ++ [.node ts], rest) := by
  have hatom := dotAtom_dotted h hrest
  obtain ⟨g, r, rfl, hg⟩ := h.exists_cons
  rw [List.cons_append] at hatom ⊢
  have hfilled : (b ++ g :: (r ++ rest)).isEmpty = false := by simp
  have hgoesOn : ∀ g ∈ rest.head?, continuesLocalPart g = false := hrest.all (by decide)
  simp only [localPart, hfilled, Bool.false_eq_true, if_false, hb.takeCfws_plain hg, orElse,
    hatom, bind, Except.bind]
  cases hb <;> cases rest with
  | nil => rfl
  | cons a r => simp [Token.withLeader, cfwsToken, hgoesOn a rfl, pure, Except.pure]

/-- The meaning of such a local part is its text. -/
theorem localText_dotted (hb : Blank lead b) (h : Dotted ts gs) :
    localText (cfwsToken lead ++ [.node ts]) = .ok gs := by
  obtain ⟨w, us, hfirst⟩ := h.first
  obtain ⟨v, vs, hlast⟩ := h.last
  -- Only the first and the last of the words stand beside a full stop that is not theirs.
  have hatom : localFrom [] .dot false [.node ts, .dot] =
      localFrom [.node ts] (.node ts) true [.dot] := by
    rw [hfirst]
    rfl
  have hdot : localFrom [.node ts] (.node ts) true [.dot] = .ok [.node ts, .dot] := by
    simp only [localFrom, turned, hlast, firstPart]
    rfl
  have hskip : localFrom [] .dot false (cfwsToken lead ++ [.node ts, .dot]) =
      localFrom [] .dot false [.node ts, .dot] := by
    cases hb with
    | none => rfl
    | space => rw [cfwsToken]; rfl
  simp only [localText, List.append_assoc, List.cons_append, List.nil_append, hskip, hatom,
    hdot, bind, Except.bind]
  simp [Token.meaningAll, Token.meaning, h.meaning, pure, Except.pure]

/-- A domain is read up to its end. -/
theorem domain_dotted (h : Dotted ts gs) (hrest : Stopped ['>', ','] rest) :
    domain (gs ++ rest) = .ok ((gs, false), rest) := by
  have hatom := dotAtom_dotted h (hrest.mono (by decide : ['>', ','] ⊆ ends))
  have hmeaning := h.meaning
  obtain ⟨g, r, rfl, hg⟩ := h.exists_cons
  rw [List.cons_append] at hatom ⊢
  have hfilled : (g :: (r ++ rest)).isEmpty = false := rfl
  have hbefore : takeCfws (g :: (r ++ rest)) = (none, g :: (r ++ rest)) :=
    Blank.none.takeCfws_plain hg
  have hopen : g.is '[' = false := not_special_of_plain hg (by decide)
  have hsign : ∀ g ∈ rest.head?, g.is '@' = false := hrest.all (by decide)
  have hdot : ∀ g ∈ rest.head?, g.is '.' = false := hrest.all (by decide)
  have hat : (rest.head?.map (·.is '@')).getD false = false := by
    cases rest with
    | nil => rfl
    | cons a r => exact hsign a rfl
  have hlabels : labelsFrom (rest.length + 1) rest = .ok ([], rest) := by
    cases rest with
    | nil => rfl
    | cons a r =>
      simp [labelsFrom, hdot a rfl]
  simp only [domain, hfilled, Bool.false_eq_true, if_false, hbefore, hopen, orElse, hatom, bind,
    Except.bind, hat, hlabels]
  simp [Token.meaning, Token.meaningAll, hmeaning, pure, Except.pure]

/-- The mailbox of an address, with what is in front of its local part. -/
def addressed (lead : Option Glyphs) (ts : List Token) (d : Glyphs) : Mailbox where
  name := none
  localPart := some (cfwsToken lead ++ [.node ts])
  domain := some d

theorem addressSpec_dotted (hb : Blank lead b) (hl : Dotted ts l) (hd : Dotted us d)
    (hrest : Stopped ['>', ','] rest) :
    addressSpec (b ++ (l ++ .char '@' :: (d ++ rest))) = .ok (addressed lead ts d, rest) := by
  have hat : Stopped ends (.char '@' :: (d ++ rest)) := .cons (by decide)
  have hlocal := localPart_dotted hb hl hat
  simp only [addressSpec, hlocal, bind, Except.bind, show (Glyph.char '@').is '@' = true from rfl,
    if_true, domain_dotted hd hrest]
  rfl

end

/-! ## §5. Entries. -/

section

variable {gs l d rest : Glyphs} {ts us : List Token} {ws : List Glyphs} {lead : Option Glyphs}
  {b : Glyphs}

/-- What stands behind a phrase that has been read. -/
theorem phraseFrom_stopped (h : Stopped ends rest) (fuel : Nat) :
    phraseFrom fuel rest = .ok ([], rest) := by
  have hphrase : ∀ g ∈ rest.head?, endsPhrase g = true := h.all (by decide)
  cases fuel with
  | zero => rfl
  | succ n =>
    cases rest with
    | nil => rfl
    | cons g r => simp [phraseFrom, hphrase g rfl]

/-- A local part is taken for a phrase that starts with a word. -/
theorem phraseFrom_dotted (h : Dotted ts gs) (hrest : Stopped ends rest) :
    ∀ fuel lead b, Blank lead b → gs.length < fuel →
      ∃ p more, phraseFrom fuel (b ++ (gs ++ rest)) = .ok (.node p :: more, rest) := by
  have hsolid : takeCfws rest = (none, rest) := takeCfws_solid (hrest.all (by decide))
  induction h with
  | word h =>
    intro fuel lead b hb hfuel
    obtain ⟨n, rfl⟩ := Nat.exists_eq_add_one_of_ne_zero (Nat.ne_zero_of_lt hfuel)
    have hword := phraseFrom_word hb h (hrest.all (by decide)) hsolid (phraseFrom_stopped hrest n)
    cases hb <;> exact ⟨_, _, hword⟩
  | @more w gs _ h _ ih =>
    intro fuel lead b hb hfuel
    obtain ⟨g, r, rfl, -⟩ := h.exists_cons
    simp only [List.length_append, List.length_cons] at hfuel
    obtain ⟨n, rfl⟩ : ∃ n, fuel = n + 1 + 1 := ⟨fuel - 2, by omega⟩
    obtain ⟨p, more, hmore⟩ := ih n none [] .none (by omega)
    have hdot : phraseFrom (n + 1) (.char '.' :: (gs ++ rest)) =
        .ok (.dot :: .node p :: more, rest) := by
      rw [List.nil_append] at hmore
      simp only [phraseFrom, show endsPhrase (.char '.') = false from rfl,
        show (Glyph.char '.').is '.' = true from rfl, Bool.false_eq_true, if_false, if_true, hmore]
      rfl
    have hends : ∀ g ∈ (Glyph.char '.' :: (gs ++ rest)).head?, endsAtom g = true := by
      rintro _ ⟨⟩
      rfl
    have hbehind : takeCfws (.char '.' :: (gs ++ rest)) = (none, .char '.' :: (gs ++ rest)) :=
      Blank.none.takeCfws rfl rfl
    have hword := phraseFrom_word hb h hends hbehind hdot
    rw [List.append_assoc]
    cases hb <;> exact ⟨_, _, hword⟩

/-- The token of a word of a name. -/
def nameWord (w : Glyphs) : Token := .node [.text w, .cfws [.char ' ']]

/-- The tokens of a name with a blank in front of it. -/
def nameTokens (lead : Option Glyphs) (w : Glyphs) (ws : List Glyphs) : List Token :=
  (nameWord w).withLeader lead :: ws.map nameWord

theorem spaced_cons (w : Glyphs) :
    spaced (w :: ws) ++ rest = w ++ .char ' ' :: (spaced ws ++ rest) := by
  simp [spaced]

/-- A name is read as its words. -/
theorem phraseFrom_name {w : Glyphs} (hw : PlainWord w) (hws : ∀ w ∈ ws, PlainWord w) :
    ∀ fuel lead b, Blank lead b → (spaced (w :: ws)).length < fuel →
      phraseFrom fuel (b ++ (spaced (w :: ws) ++ .char '<' :: rest)) =
        .ok (nameTokens lead w ws, .char '<' :: rest) := by
  induction ws generalizing w with
  | nil =>
    intro fuel lead b hb hfuel
    obtain ⟨n, rfl⟩ := Nat.exists_eq_add_one_of_ne_zero (Nat.ne_zero_of_lt hfuel)
    rw [spaced_cons]
    exact phraseFrom_word hb hw (by rintro _ ⟨⟩; rfl) (Blank.space.takeCfws rfl rfl)
      (phraseFrom_stopped (.cons (by decide)) n)
  | cons v ws ih =>
    intro fuel lead b hb hfuel
    obtain ⟨n, rfl⟩ := Nat.exists_eq_add_one_of_ne_zero (Nat.ne_zero_of_lt hfuel)
    have hv : PlainWord v := hws v List.mem_cons_self
    have hmore := ih hv (fun u hu => hws u (List.mem_cons_of_mem v hu)) n none [] .none (by
      simp only [spaced, List.flatMap_cons, List.length_append, List.length_cons] at hfuel ⊢
      omega)
    have hafter : takeCfws (.char ' ' :: (spaced (v :: ws) ++ .char '<' :: rest)) =
        (some [.char ' '], spaced (v :: ws) ++ .char '<' :: rest) := by
      obtain ⟨g, r, rfl, hg⟩ := hv.exists_cons
      exact Blank.space.takeCfws_plain hg
    rw [spaced_cons]
    exact phraseFrom_word hb hw (by rintro _ ⟨⟩; rfl) hafter hmore

/-- What is in front of a name goes to its first word. -/
theorem leadName_name (w : Glyphs) :
    leadName lead (nameTokens none w ws) = .ok (nameTokens lead w ws) := by
  cases lead <;> rfl

theorem meaningAll_names {init : List Glyphs} {more : List Token} :
    Token.meaningAll (init.map nameWord ++ more) = spaced init ++ Token.meaningAll more := by
  induction init with
  | nil => rfl
  | cons w init ih =>
    rw [spaced_cons]
    simp [nameWord, Token.meaningAll, Token.meaning, ih]

/-- A name is shown without blanks at its ends. -/
theorem nameText_name {w v : Glyphs} {init : List Glyphs} (hb : Blank lead b)
    (hlast : w :: ws = init ++ [v]) : nameText (nameTokens lead w ws) = .ok (spaced init ++ v) := by
  have hwords : nameTokens none w ws = init.map nameWord ++ [nameWord v] := by
    have := congrArg (List.map nameWord) hlast
    simpa [nameTokens, nameWord, Token.withLeader] using this
  have hfront : trimNameStart (nameTokens lead w ws) = .ok (nameTokens none w ws) := by
    cases hb <;> rfl
  have hturned : turned ∘ turned ∘ nameWord = nameWord := rfl
  have hback : trimNameStart ((nameTokens none w ws).reverse.map turned) =
      .ok (.node [.text v] :: (init.map nameWord).reverse.map turned) := by
    rw [hwords, List.reverse_append]
    rfl
  have hfilled : (nameTokens lead w ws).isEmpty = false := rfl
  simp only [nameText, hfilled, Bool.false_eq_true, if_false, hfront, hback, bind, Except.bind]
  simp [hturned, turned, meaningAll_names, Token.meaningAll, Token.meaning, pure, Except.pure]

theorem spaced_unbroken (hws : ∀ w ∈ ws, PlainWord w) :
    ∀ g ∈ spaced ws, isLineBreak g = false := by
  intro g hg
  obtain ⟨w, hw, hg | rfl⟩ : ∃ w ∈ ws, g ∈ w ∨ g = .char ' ' := by simpa [spaced] using hg
  · exact isLineBreak_of_plain ((hws w hw).plain g hg)
  · rfl

/-- An address without line breaks can be shown. -/
theorem addressText_ok {name local_ domain : Glyphs} (hname : ∀ g ∈ name, isLineBreak g = false)
    (hlocal : ∀ g ∈ local_, isLineBreak g = false) (hdomain : ∀ g ∈ domain, isLineBreak g = false) :
    ∃ text, addressText name local_ domain = .ok text := by
  have hwhole : (name ++ local_ ++ domain).any isLineBreak = false := by
    simpa [or_imp, forall_and] using ⟨hname, hlocal, hdomain⟩
  unfold addressText
  rw [hwhole, if_neg Bool.false_ne_true]
  extract_lets
  split <;> exact ⟨_, rfl⟩

/-- A mailbox with an ordinary address can be shown, with or without a name. -/
theorem mailboxText_ok (name : Option (List Token)) (hb : Blank lead b) (hl : Dotted ts l)
    (hd : Dotted us d) (hname : ∀ tokens ∈ name, ∃ text, nameText tokens = .ok text ∧
      ∀ g ∈ text, isLineBreak g = false) :
    ∃ text, mailboxText (some { addressed lead ts d with name }) = .ok text := by
  have hdomain : ∀ g ∈ withoutBlanks d, isLineBreak g = false := fun g hg =>
    hd.unbroken g (List.mem_filter.1 hg).1
  cases name with
  | none =>
    have hname : ∀ g ∈ ([] : Glyphs), isLineBreak g = false := by simp
    obtain ⟨text, htext⟩ := addressText_ok hname hl.unbroken hdomain
    refine ⟨text, ?_⟩
    simpa [mailboxText, addressed, localText_dotted hb hl, bind, Except.bind, pure, Except.pure]
      using htext
  | some tokens =>
    obtain ⟨name, hread, hunbroken⟩ := hname tokens rfl
    obtain ⟨text, htext⟩ := addressText_ok hunbroken hl.unbroken hdomain
    refine ⟨text, ?_⟩
    simpa [mailboxText, addressed, hread, localText_dotted hb hl, bind, Except.bind] using htext

/-- A phrase with no colon behind it names no group. -/
theorem group_mismatch {g : Glyph} {name : List Token} (hphrase : phrase gs = .ok (name, g :: rest))
    (hg : g.is ':' = false) : group gs = .error .mismatch := by
  simp [group, hphrase, hg, bind, Except.bind]

theorem angleAddress_dotted (hl : Dotted ts l) (hd : Dotted us d) (hrest : Stopped [','] rest) :
    angleAddress (.char '<' :: (l ++ .char '@' :: (d ++ .char '>' :: rest))) =
      .ok (addressed none ts d, rest) := by
  have hend : Stopped ['>', ','] (.char '>' :: rest) := .cons (by decide)
  have hspec := addressSpec_dotted .none hl hd hend
  have hafter : takeCfws rest = (none, rest) := takeCfws_solid (hrest.all (by decide))
  obtain ⟨g, r, rfl, hg⟩ := hl.exists_cons
  rw [List.nil_append, List.cons_append] at hspec
  have hclose : g.is '>' = false := not_special_of_plain hg (by decide)
  have hbefore : ∀ gs, takeCfws (.char '<' :: gs) = (none, .char '<' :: gs) := fun gs =>
    takeCfws_solid (by rintro _ ⟨⟩; rfl)
  simp only [angleAddress, List.isEmpty_cons, Bool.false_eq_true, if_false, hbefore,
    show (Glyph.char '<').is '<' = true from rfl, Bool.not_true, List.cons_append, hclose, hspec,
    bind, Except.bind]
  simp [show (Glyph.char '>').is '>' = true from rfl, hafter, pure, Except.pure]

theorem phrase_of_phraseFrom {name : List Token} (hgs : gs ≠ [])
    (h : phraseFrom (gs.length + 1) gs = .ok (name, rest)) : phrase gs = .ok (name, rest) := by
  have hfilled : gs.isEmpty = false := by simpa using hgs
  simp [phrase, hfilled, h]

/-- The mailbox of an entry that is no group. -/
theorem entry_of_mailbox {m : Mailbox} (hgroup : group gs = .error .mismatch)
    (hmailbox : orElse nameAddress addressSpec gs = .ok (m, rest)) (hclosed : m.unclosed = false) :
    entry gs = .ok (.mailbox m, rest) := by
  have hread : mailbox gs = .ok (m, rest) := by
    simp [mailbox, hmailbox, hclosed, bind, Except.bind, pure, Except.pure]
  simp [entry, orElse, hgroup, hread, bind, Except.bind, pure, Except.pure]

/-- An address without a name. -/
theorem entry_bare (hb : Blank lead b) (hl : Dotted ts l) (hd : Dotted us d)
    (hrest : Stopped [','] rest) :
    entry (b ++ (l ++ .char '@' :: (d ++ rest))) = .ok (.mailbox (addressed lead ts d), rest) := by
  have hphrase : ∀ {lead b}, Blank lead b → ∃ p more,
      phrase (b ++ (l ++ .char '@' :: (d ++ rest))) =
        .ok (.node p :: more, .char '@' :: (d ++ rest)) := by
    intro lead b hb
    have hat : Stopped ends (.char '@' :: (d ++ rest)) := .cons (by decide)
    obtain ⟨p, more, hmore⟩ := phraseFrom_dotted hl hat
      ((b ++ (l ++ .char '@' :: (d ++ rest))).length + 1) lead b hb
      (by simp only [List.length_append]; omega)
    exact ⟨p, more, phrase_of_phraseFrom (by simp) hmore⟩
  have hspec := addressSpec_dotted hb hl hd (hrest.mono (by decide : [','] ⊆ ['>', ',']))
  -- The local part passes for a name, but no bracket stands behind it.
  have hname : nameAddress (b ++ (l ++ .char '@' :: (d ++ rest))) = .error .mismatch := by
    obtain ⟨p, more, hmore⟩ := hphrase .none
    obtain ⟨g, r, rfl, hg⟩ := hl.exists_cons
    rw [List.nil_append, List.cons_append] at hmore
    have hfilled : (b ++ g :: (r ++ .char '@' :: (d ++ rest))).isEmpty = false := by simp
    have hopen : g.is '<' = false := not_special_of_plain hg (by decide)
    obtain ⟨name, hled⟩ : ∃ name, leadName lead (.node p :: more) = .ok name := by
      cases hb <;> exact ⟨_, rfl⟩
    have hat : angleAddress (.char '@' :: (d ++ rest)) = .error .mismatch := rfl
    simp only [nameAddress, List.cons_append, hfilled, Bool.false_eq_true, if_false,
      hb.takeCfws_plain hg, hopen, endsPhrase_of_plain hg, hmore, bind, Except.bind,
      List.isEmpty_cons, hled, hat]
  obtain ⟨p, more, hmore⟩ := hphrase hb
  refine entry_of_mailbox (group_mismatch hmore rfl) ?_ rfl
  simp only [orElse, hname, hspec]

/-- An address behind a name. -/
theorem entry_named {w : Glyphs} (hb : Blank lead b) (hw : PlainWord w)
    (hws : ∀ w ∈ ws, PlainWord w) (hl : Dotted ts l) (hd : Dotted us d)
    (hrest : Stopped [','] rest) :
    entry (b ++ (spaced (w :: ws) ++ .char '<' :: (l ++ .char '@' :: (d ++ .char '>' :: rest)))) =
      .ok (.mailbox { addressed none ts d with name := some (nameTokens lead w ws) }, rest) := by
  have hangle := angleAddress_dotted hl hd hrest
  generalize l ++ .char '@' :: (d ++ .char '>' :: rest) = address at hangle ⊢
  have hphrase : ∀ {lead b}, Blank lead b →
      phrase (b ++ (spaced (w :: ws) ++ .char '<' :: address)) =
        .ok (nameTokens lead w ws, .char '<' :: address) := fun {lead b} hb =>
    phrase_of_phraseFrom (by simp) (phraseFrom_name hw hws _ lead b hb
      (by simp only [List.length_append]; omega))
  have hname : nameAddress (b ++ (spaced (w :: ws) ++ .char '<' :: address)) =
      .ok ({ addressed none ts d with name := some (nameTokens lead w ws) }, rest) := by
    have hmore := hphrase .none
    obtain ⟨g, r, rfl, hg⟩ := hw.exists_cons
    rw [List.nil_append] at hmore
    rw [spaced_cons, List.cons_append] at hmore ⊢
    generalize r ++ .char ' ' :: (spaced ws ++ .char '<' :: address) = behind at hmore ⊢
    have hfilled : (b ++ g :: behind).isEmpty = false := by simp
    have hopen : g.is '<' = false := not_special_of_plain hg (by decide)
    simp only [nameAddress, hfilled, Bool.false_eq_true, if_false, hb.takeCfws_plain hg, hopen,
      endsPhrase_of_plain hg, hmore, bind, Except.bind, List.isEmpty_cons, leadName_name, hangle]
    rfl
  refine entry_of_mailbox (group_mismatch (hphrase hb) rfl) ?_ rfl
  simp only [orElse, hname]

theorem Ordinary.ne_nil (h : Ordinary gs) : gs ≠ [] := by
  cases h <;> simp

/-- **An ordinary entry is read and shown**, whatever entries follow it. -/
theorem entry_ordinary (h : Ordinary gs) (hb : Blank lead b) (hrest : Stopped [','] rest) :
    ∃ m text, entry (b ++ (gs ++ rest)) = .ok (.mailbox m, rest) ∧
      mailboxText (some m) = .ok text := by
  cases h with
  | bare hl hd =>
    obtain ⟨text, htext⟩ := mailboxText_ok none hb hl hd (by rintro _ ⟨⟩)
    refine ⟨_, text, ?_, htext⟩
    rw [List.append_assoc, List.cons_append]
    exact entry_bare hb hl hd hrest
  | @named ws ts us l d filled name hl hd =>
    obtain ⟨w, ws, rfl⟩ := List.exists_cons_of_ne_nil filled
    have hw := name w List.mem_cons_self
    have hws : ∀ v ∈ ws, PlainWord v := fun v hv => name v (List.mem_cons_of_mem w hv)
    obtain ⟨text, htext⟩ := mailboxText_ok (some (nameTokens lead w ws)) .none hl hd (by
      rintro _ ⟨⟩
      have hlast := (List.dropLast_concat_getLast filled).symm
      refine ⟨_, nameText_name hb hlast, ?_⟩
      rw [List.forall_mem_append]
      exact ⟨spaced_unbroken fun v hv => name v (List.dropLast_subset _ hv),
        fun g hg => isLineBreak_of_plain ((name _ (List.getLast_mem filled)).plain g hg)⟩)
    refine ⟨_, text, ?_, htext⟩
    simpa [List.append_assoc] using entry_named hb hw hws hl hd hrest

/-! ## §6. Lists. -/

theorem skipInvalid_stopped (h : Stopped [','] rest) (fuel : Nat) :
    skipInvalid [','] fuel rest = .ok rest := by
  have hcomma : ∀ g ∈ rest.head?, g.oneOf [','] = true := h.all (by decide)
  cases fuel with
  | zero => rfl
  | succ n =>
    cases rest with
    | nil => rfl
    | cons g r => simp [skipInvalid, hcomma g rfl]

/-- A list goes on behind a mailbox and a comma. -/
theorem entriesFrom_mailbox {fuel : Nat} {m : Mailbox} {more : List Entry} (hgs : gs ≠ [])
    (hentry : entry gs = .ok (.mailbox m, rest)) (hrest : Stopped [','] rest)
    (hmore : entriesFrom fuel (dropComma rest) = .ok more) :
    entriesFrom (fuel + 1) gs = .ok (.mailbox m :: more) := by
  obtain ⟨g, r, rfl⟩ := List.exists_cons_of_ne_nil hgs
  have hitem : itemOr entry .invalid [','] (g :: r) = .ok (some (.mailbox m), rest) := by
    simp only [itemOr, hentry]
  simp only [entriesFrom, hitem, skipInvalid_stopped hrest, hmore, bind, Except.bind]
  rfl

/-- A list of ordinary entries is read as mailboxes that can be shown. -/
theorem entriesFrom_ok (h : OrdinaryList gs) : ∀ fuel lead b, Blank lead b → gs.length < fuel →
    ∃ entries texts, entriesFrom fuel (b ++ gs) = .ok entries ∧
      entries.mapM entryText = .ok texts := by
  induction h with
  | @one a h =>
    intro fuel lead b hb hfuel
    obtain ⟨n, rfl⟩ := Nat.exists_eq_add_one_of_ne_zero (Nat.ne_zero_of_lt hfuel)
    obtain ⟨m, text, hentry, htext⟩ := entry_ordinary h hb .nil
    rw [List.append_nil] at hentry
    have hmore : entriesFrom n (dropComma []) = .ok [] := by cases n <;> rfl
    refine ⟨_, [text], entriesFrom_mailbox (by simp [h.ne_nil]) hentry .nil hmore, ?_⟩
    simp [entryText, htext, bind, Except.bind, pure, Except.pure]
  | @more a gs h _ ih =>
    intro fuel lead b hb hfuel
    obtain ⟨n, rfl⟩ := Nat.exists_eq_add_one_of_ne_zero (Nat.ne_zero_of_lt hfuel)
    have hcomma : Stopped [','] (.char ',' :: .char ' ' :: gs) := .cons (by decide)
    obtain ⟨m, text, hentry, htext⟩ := entry_ordinary h hb hcomma
    obtain ⟨more, texts, hmore, htexts⟩ := ih n _ _ .space (by
      simp only [List.length_append, List.length_cons] at hfuel
      omega)
    refine ⟨_, text :: texts, entriesFrom_mailbox (by simp [h.ne_nil]) hentry hcomma hmore, ?_⟩
    simp [entryText, htext, htexts, bind, Except.bind, pure, Except.pure]

/-- **A list of ordinary addresses is read and shown.** -/
theorem addressList_ok (h : OrdinaryList gs) : ∃ text, addressList gs = .ok text := by
  obtain ⟨entries, texts, hread, hshown⟩ :=
    entriesFrom_ok h (gs.length + 1) none [] .none (by omega)
  rw [List.nil_append] at hread
  exact ⟨joinComma texts, by simp only [addressList, hread, bind, Except.bind, hshown]⟩

/-- **An identifier made of ordinary words is read and shown.** -/
theorem messageId_ok (hl : Dotted ts l) (hd : Dotted us d) :
    ∃ text, messageId (.char '<' :: (l ++ .char '@' :: (d ++ [.char '>']))) = .ok text := by
  have hbefore : ∀ gs, takeCfws (.char '<' :: gs) = (none, .char '<' :: gs) := fun gs =>
    takeCfws_solid (by rintro _ ⟨⟩; rfl)
  have hat : Stopped ends (.char '@' :: (d ++ [.char '>'])) := .cons (by decide)
  have hclose : Stopped ends [.char '>'] := .cons (by decide)
  have hleft := dotAtomText_dotted hl hat
  have hright := dotAtomText_dotted hd hclose
  simp only [messageId, identifier, hbefore, show (Glyph.char '<').is '<' = true from rfl, if_true,
    idBehind, idLeft, orElse, hleft, bind, Except.bind, pure, Except.pure,
    show (Glyph.char '@').is '@' = true from rfl, idRight, hright]
  exact ⟨_, rfl⟩

end

end Mailroom.Mime
