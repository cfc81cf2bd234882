import Mathlib.Data.Bool.AllAny
import Mailroom.Proofs.Imap.FlagList
/-!
  Mailroom.Proofs.Imap.FetchLayout
  ────────────────────────────────
  **WHAT IS READ FROM THE LINES OF A FETCH RESPONSE.**

  A server writes the UID and the flags of a message in any order, each in front of the
  literal or behind it, and may send lines about other changes afterwards.  The first UID
  and the first list of flags count, so what comes afterwards does not matter.  But where
  the flags stand in front of the UID, a flag that ends in the word UID can have its
  neighbour read as the UID: the response is read back exactly when no message is so
  mistaken.

      groups_layouts        — the lines of a message are put together
      firstUid, firstFlags  — what is found among the parts of a text
      readFetch_layouts     — what is read from a whole response
      fetch_read_back       — when that is what the server wrote
-/
namespace Mailroom.Imap

open Mailroom.Text Mailroom.Number

/-! ## §1. Messages as servers write them. -/

/-- What a server states about a message besides its literal. -/
inductive Datum where
  | uid
  | flags
  deriving DecidableEq, Repr

/-- A message in a FETCH response, and how the server writes it. -/
structure Layout where
  /-- The number of the message in its folder. -/
  place : Nat
  uid : Nat
  /-- The flags, in the order in which they are listed. -/
  flags : List String
  raw : Octets
  /-- What stands in front of the literal. -/
  before : List Datum
  /-- What stands on lines of its own behind the literal. -/
  between : List (List Datum)
  /-- What stands on the line that ends the message. -/
  last : List Datum
  /-- Lines that follow, whatever they are. -/
  later : List Octets
  words : ∀ flag ∈ flags, IsOneWord flag
  complete : (before ++ between.flatten ++ last).Perm [.uid, .flags]

namespace Layout

variable (l : Layout)

/-- A datum as it is written. -/
def written : Datum → Octets
  | .uid => octets "UID " ++ numeral l.uid
  | .flags => octets "FLAGS (" ++ (flagOctets l.flags ++ [41])

/-- The line in front of the literal, which announces its length. -/
def opening : Octets :=
  numeral l.place ++ octets " (" ++ l.before.flatMap (fun d => l.written d ++ [32])
    ++ octets "BODY[] \x7b" ++ numeral l.raw.length ++ [125]

/-- A line behind the literal. -/
def line (data : List Datum) : Octets := data.flatMap fun d => 32 :: l.written d

/-- The lines behind the literal: those of the message, then any others. -/
def lines : List Octets := l.between.map l.line ++ (l.line l.last ++ [41]) :: l.later

/-- The items that the server sends for the message. -/
def items : List Item := .group [l.opening, l.raw] :: l.lines.map .line

/-- The message itself. -/
def message : Fetched := ⟨l.uid, l.flags, l.raw⟩

/-- The data in the order in which they are written. -/
def data : List Datum := l.before ++ l.between.flatten ++ l.last

/-- The lines of the message put together. -/
def text : Octets := l.opening ++ l.lines.flatMap (32 :: ·)

end Layout

/-! ## §2. Putting lines together. -/

theorem groups_lines (header raw : Octets) (lines : List Octets) (rest : List Item) :
    groups (some (header, raw)) (lines.map .line ++ rest)
      = groups (some (header ++ lines.flatMap (32 :: ·), raw)) rest := by
  induction lines generalizing header with
  | nil => simp
  | cons bs lines ih =>
    rw [List.map_cons, List.cons_append, groups, List.flatMap_cons, ← List.append_assoc, ← ih]
    rfl

/-- **The lines of every message are put together**, by induction on the messages. -/
theorem groups_layouts (open? : Option (Octets × Octets)) (layouts : List Layout) :
    groups open? (layouts.flatMap Layout.items)
      = .ok (open?.toList ++ layouts.map fun l => (l.text, l.raw)) := by
  induction layouts generalizing open? with
  | nil => simp [groups]
  | cons l layouts ih =>
    rw [List.flatMap_cons, Layout.items, List.cons_append, groups, groups_lines, ih]
    rfl

/-! ## §3. A text and its parts. -/

/-- A part of a text: a datum, or what stands between data. -/
inductive Part where
  | gap (octets : Octets)
  | datum (d : Datum)

/-- What may stand between data: nothing that looks like the start of a datum, no part of
a word at its end and, behind a datum, no digit at its front. -/
structure IsGap (behindDatum : Bool) (bs : Octets) : Prop where
  quiet : ∀ b ∈ bs, b ≠ 85 ∧ b ≠ 70
  apart : ∃ pre b, bs = pre ++ [b] ∧ isWordByte b = false
  fresh : behindDatum = true → ∀ b ∈ bs.head?, isByteDigit b = false

/-- Parts in which a gap stands behind every datum; `behindDatum` says whether a datum
precedes them. -/
inductive Spaced : Bool → List Part → Prop
  | nil : Spaced false []
  | gap {behindDatum : Bool} {bs : Octets} {parts : List Part} (first : IsGap behindDatum bs)
      (rest : Spaced false parts) : Spaced behindDatum (.gap bs :: parts)
  | datum {d : Datum} {parts : List Part} (rest : Spaced true parts) :
      Spaced false (.datum d :: parts)

/-- The data among parts. -/
def dataOf (parts : List Part) : List Datum :=
  parts.filterMap fun
    | .gap _ => none
    | .datum d => some d

@[simp] theorem dataOf_nil : dataOf [] = [] := rfl

@[simp] theorem dataOf_gap (bs : Octets) (ps : List Part) : dataOf (.gap bs :: ps) = dataOf ps := rfl

@[simp] theorem dataOf_datum (d : Datum) (ps : List Part) :
    dataOf (.datum d :: ps) = d :: dataOf ps := rfl

@[simp] theorem dataOf_append (ps qs : List Part) :
    dataOf (ps ++ qs) = dataOf ps ++ dataOf qs := List.filterMap_append

@[simp] theorem dataOf_flatMap {α : Type} (xs : List α) (f : α → List Part) :
    dataOf (xs.flatMap f) = xs.flatMap fun x => dataOf (f x) := List.filterMap_flatMap

/-- Data with a space in front of each. -/
def trailing (data : List Datum) : List Part := data.flatMap fun d => [.gap [32], .datum d]

section

variable {α : Type} {read : Octets → Option α} {bs : Octets} {behindDatum : Bool}

/-- A gap is passed over, and a word may start behind it. -/
theorem IsGap.passed (h : IsGap behindDatum bs)
    (hread : ∀ b bs', b ≠ 85 ∧ b ≠ 70 → read (b :: bs') = none) (w : Bool) (rest : Octets) :
    firstAtWord? read w (bs ++ rest) = firstAtWord? read false rest := by
  obtain ⟨pre, b, hbs, hb⟩ := h.apart
  rw [firstAtWord?_quiet fun b hb bs' => hread b bs' (h.quiet b hb), hbs, endsInWord_concat, hb]

theorem isGap_space (behindDatum : Bool) : IsGap behindDatum [32] :=
  ⟨List.all_iff_forall_prop.1 rfl, ⟨[], 32, rfl, rfl⟩, by rintro - b ⟨⟩; rfl⟩

theorem isGap_close (behindDatum : Bool) : IsGap behindDatum [41] :=
  ⟨List.all_iff_forall_prop.1 rfl, ⟨[], 41, rfl, rfl⟩, by rintro - b ⟨⟩; rfl⟩

/-- A number does not look like a datum, and no more do the octets around it. -/
theorem isGap_number (pre : Octets) (n : Nat) (post : Octets) {b : UInt8}
    (hpre : ∀ b ∈ pre, b ≠ 85 ∧ b ≠ 70) (hpost : ∀ c ∈ post ++ [b], c ≠ 85 ∧ c ≠ 70)
    (hb : isWordByte b = false) : IsGap false (pre ++ numeral n ++ (post ++ [b])) := by
  have hdigit : ∀ c ∈ numeral n, c ≠ 85 ∧ c ≠ 70 := by
    intro c hc
    constructor <;> rintro rfl <;> exact absurd (isByteDigit_numeral n _ hc) (by decide)
  refine ⟨fun c hc => ?_, ⟨pre ++ numeral n ++ post, b, by simp, hb⟩, nofun⟩
  rcases List.mem_append.1 hc with hc | hc
  · exact (List.mem_append.1 hc).elim (hpre c) (hdigit c)
  · exact hpost c hc

end

namespace Spaced

variable {ps : List Part}

theorem anywhere (h : Spaced true ps) : Spaced false ps := by
  cases h with
  | gap first rest => exact .gap ⟨first.quiet, first.apart, nofun⟩ rest

theorem leading (h : Spaced false ps) (data : List Datum) :
    Spaced false ((data.flatMap fun d => [.datum d, .gap [32]]) ++ ps) := by
  induction data with
  | nil => exact h
  | cons d data ih => exact .datum (.gap (isGap_space true) ih)

theorem trailing (h : Spaced true ps) (data : List Datum) :
    Spaced true (Imap.trailing data ++ ps) := by
  induction data with
  | nil => exact h
  | cons d data ih => exact .gap (isGap_space true) (.datum ih)

theorem between (h : Spaced true ps) (lines : List (List Datum)) :
    Spaced true ((lines.flatMap fun data => .gap [32] :: Imap.trailing data) ++ ps) := by
  induction lines with
  | nil => exact h
  | cons data lines ih =>
    rw [List.flatMap_cons, List.append_assoc]
    exact .gap (isGap_space true) (ih.trailing data).anywhere

end Spaced

/-! ## §4. Searching among parts. -/

namespace Layout

variable (l : Layout)

/-- The octets of parts. -/
def octetsOf (parts : List Part) : Octets :=
  parts.flatMap fun
    | .gap bs => bs
    | .datum d => l.written d

@[simp] theorem octetsOf_nil : l.octetsOf [] = [] := rfl

@[simp] theorem octetsOf_gap (bs : Octets) (parts : List Part) :
    l.octetsOf (.gap bs :: parts) = bs ++ l.octetsOf parts := List.flatMap_cons

@[simp] theorem octetsOf_datum (d : Datum) (parts : List Part) :
    l.octetsOf (.datum d :: parts) = l.written d ++ l.octetsOf parts := List.flatMap_cons

@[simp] theorem octetsOf_append (ps qs : List Part) :
    l.octetsOf (ps ++ qs) = l.octetsOf ps ++ l.octetsOf qs := List.flatMap_append

@[simp] theorem octetsOf_flatMap {α : Type} (xs : List α) (f : α → List Part) :
    l.octetsOf (xs.flatMap f) = xs.flatMap fun x => l.octetsOf (f x) := List.flatMap_assoc

/-- The digits that are taken for the UID, of data in this order. -/
def digitsOf? : List Datum → Option Octets
  | [] => none
  | .uid :: _ => some (numeral l.uid)
  | .flags :: data => (lure? (l.flags.map encode)).or (digitsOf? data)

section

variable {l} {parts : List Part} {rest digits : Octets} {w behindDatum : Bool}

/-- Behind a datum no digit follows. -/
theorem head_of_spaced (h : Spaced true parts) (rest : Octets) :
    ∀ b ∈ (l.octetsOf parts ++ rest).head?, isByteDigit b = false := by
  cases h with
  | @gap _ bs parts first _ =>
    obtain ⟨pre, b, hbs, -⟩ := first.apart
    have hhead : (bs ++ (l.octetsOf parts ++ rest)).head? = bs.head? :=
      List.head?_append_of_ne_nil bs (by simp [hbs])
    intro b hb
    rw [octetsOf_gap, List.append_assoc, hhead] at hb
    exact first.fresh rfl b hb

/-- **The UID is found among the parts of a text**, by induction on them. -/
theorem firstUid (h : Spaced behindDatum parts) (hw : w = true → behindDatum = true)
    (hdigits : l.digitsOf? (dataOf parts) = some digits) :
    firstAtWord? uidItem? w (l.octetsOf parts ++ rest) = some digits := by
  induction h generalizing w with
  | nil => cases hdigits
  | @gap behind bs parts first _ ih =>
    rw [octetsOf_gap, List.append_assoc, first.passed fun b bs' h => uidItem?_of_ne h.1]
    exact ih nofun hdigits
  | @datum d parts next ih =>
    have hstart : w = false := Bool.eq_false_iff.2 fun h => Bool.false_ne_true (hw h)
    rw [octetsOf_datum, List.append_assoc, hstart]
    cases d with
    | uid =>
      -- The digits of the UID end where the gap behind it begins.
      obtain rfl : numeral l.uid = digits := Option.some.inj hdigits
      rw [written, List.append_assoc]
      exact firstAtWord?_of_some (uidItem?_numeral l.uid (head_of_spaced next rest))
    | flags =>
      have hname : ∀ b ∈ octets "FLAGS (", b ≠ 85 := List.all_iff_forall_prop.1 rfl
      have hquiet : ∀ b ∈ octets "FLAGS (", ∀ bs, uidItem? (b :: bs) = none := fun b hb bs =>
        uidItem?_of_ne (hname b hb)
      rw [written, List.append_assoc, firstAtWord?_quiet hquiet, List.append_assoc]
      show firstAtWord? uidItem? false (flagOctets l.flags ++ 41 :: _) = _
      rw [flagOctets, firstUid_flags (not_space_flags l.words)]
      -- The search stops at a lure of the list, or goes on behind the list.
      change (lure? (l.flags.map encode)).or (l.digitsOf? (dataOf parts)) = some digits at hdigits
      cases hlure : lure? (l.flags.map encode) with
      | none =>
        rw [hlure, Option.none_or] at hdigits
        rw [Option.none_or]
        exact ih nofun hdigits
      | some ds => rwa [hlure, Option.some_or] at hdigits

/-- **The list of flags is found among the parts of a text**, by induction on them. -/
theorem firstFlags (h : Spaced behindDatum parts) (hw : w = true → behindDatum = true)
    (hmem : .flags ∈ dataOf parts) :
    firstAtWord? flagsItem? w (l.octetsOf parts ++ rest) = some (flagOctets l.flags) := by
  induction h generalizing w with
  | nil => cases hmem
  | @gap behind bs parts first _ ih =>
    rw [octetsOf_gap, List.append_assoc, first.passed fun b bs' h => flagsItem?_of_ne h.2]
    exact ih nofun hmem
  | @datum d parts next ih =>
    rw [octetsOf_datum, List.append_assoc]
    cases d with
    | uid =>
      have hquiet : ∀ b ∈ l.written .uid, ∀ bs, flagsItem? (b :: bs) = none := by
        intro b hb bs
        refine flagsItem?_of_ne ?_
        rintro rfl
        rcases List.mem_append.1 hb with hb | hb
        · exact absurd hb (by decide)
        · exact absurd (isByteDigit_numeral l.uid _ hb) (by decide)
      -- Behind a UID stands a part of a word, but a gap follows before the next datum.
      rw [firstAtWord?_quiet hquiet]
      exact ih (fun _ => rfl) ((List.mem_cons.1 hmem).resolve_left nofun)
    | flags =>
      have hstart : w = false := Bool.eq_false_iff.2 fun h => Bool.false_ne_true (hw h)
      rw [hstart, written, List.append_assoc, List.append_assoc]
      exact firstAtWord?_of_some (flagsItem?_list (not_close_flags l.words))

end

/-! ## §5. The parts of a message. -/

/-- What stands in front of the data of the first line. -/
def lead : Octets := numeral l.place ++ octets " ("

/-- What announces the literal. -/
def announcement : Octets := octets "BODY[] \x7b" ++ numeral l.raw.length ++ [125]

/-- The parts of a message's own lines. -/
def parts : List Part :=
  .gap l.lead :: ((l.before.flatMap fun d => [.datum d, .gap [32]])
    ++ .gap l.announcement :: ((l.between.flatMap fun data => .gap [32] :: trailing data)
    ++ .gap [32] :: (trailing l.last ++ [.gap [41]])))

theorem octetsOf_parts : l.octetsOf l.parts ++ l.later.flatMap (32 :: ·) = l.text := by
  simp [text, opening, lines, line, parts, lead, announcement, trailing, List.flatMap_map]

theorem dataOf_parts : dataOf l.parts = l.data := by
  simp [parts, data, trailing]

/-- **A gap stands behind every datum of a message.** -/
theorem spaced_parts : Spaced false l.parts := by
  -- From the closing parenthesis back to the front.
  have hclose : Spaced true (.gap [32] :: (trailing l.last ++ [.gap [41]])) :=
    .gap (isGap_space true) (Spaced.trailing (.gap (isGap_close true) .nil) l.last).anywhere
  have hlead : IsGap false l.lead :=
    isGap_number [] l.place [32] nofun (List.all_iff_forall_prop.1 rfl) rfl
  have hliteral : IsGap false l.announcement :=
    isGap_number (octets "BODY[] \x7b") l.raw.length [] (List.all_iff_forall_prop.1 rfl)
      (List.all_iff_forall_prop.1 rfl) rfl
  exact .gap hlead (.leading (.gap hliteral (hclose.between l.between).anywhere) l.before)

/-! ## §6. What is read. -/

/-- The digits in the list of flags that are taken for the UID, when the list stands in
front of it. -/
def lure? : Option Octets :=
  match l.data with
  | .flags :: _ => Imap.lure? (l.flags.map encode)
  | _ => none

/-- That a message is not mistaken: its UID is not too long to be read, and what is taken
for it states the same number. -/
structure Legible : Prop where
  short : l.lure? = none → (numeral l.uid).length ≤ maxDigits
  same : ∀ digits, l.lure? = some digits → number digits = .ok (l.uid : Int)

theorem data_eq : l.data = [.uid, .flags] ∨ l.data = [.flags, .uid] := by
  obtain ⟨a, b, hdata : l.data = [a, b]⟩ := List.length_eq_two.1 l.complete.length_eq
  have hperm : [a, b].Perm [.uid, .flags] := hdata ▸ l.complete
  rw [hdata]
  revert hperm
  cases a <;> cases b <;> decide

theorem uidDigits_text : uidDigits? l.text = some (l.lure?.getD (numeral l.uid)) := by
  have hdigits : l.digitsOf? l.data = some (l.lure?.getD (numeral l.uid)) := by
    rw [lure?]
    rcases l.data_eq with hdata | hdata <;> rw [hdata]
    · rfl
    · show (Imap.lure? (l.flags.map encode)).or (some (numeral l.uid)) = _
      cases Imap.lure? (l.flags.map encode) <;> rfl
  rw [uidDigits?, ← octetsOf_parts]
  exact firstUid l.spaced_parts nofun (l.dataOf_parts.symm ▸ hdigits)

theorem flagsOf_text : flagsOf l.text = l.flags := by
  have hmem : .flags ∈ dataOf l.parts := by
    rw [dataOf_parts]
    rcases l.data_eq with hdata | hdata <;> rw [hdata] <;> decide
  have hfirst : firstAtWord? flagsItem? false l.text = some (flagOctets l.flags) := by
    rw [← octetsOf_parts]
    exact firstFlags l.spaced_parts nofun hmem
  rw [flagsOf, hfirst]
  exact flags_read l.words

theorem legible_iff :
    l.Legible ↔ number (l.lure?.getD (numeral l.uid)) = .ok (l.uid : Int) := by
  cases hlure : l.lure? with
  | none =>
    have hsame : ∀ ds, l.lure? ≠ some ds := fun ds hds => nomatch hlure.symm.trans hds
    rw [Option.getD_none, number_numeral_iff]
    exact ⟨fun h => h.short hlure, fun h => ⟨fun _ => h, fun ds hds => absurd hds (hsame ds)⟩⟩
  | some digits =>
    have hsome : l.lure? ≠ none := fun hnone => nomatch hnone.symm.trans hlure
    have hsame : ∀ ds, l.lure? = some ds → ds = digits := fun ds hds =>
      Option.some.inj (hds.symm.trans hlure)
    rw [Option.getD_some]
    exact ⟨fun h => h.same digits hlure, fun h =>
      ⟨fun hnone => absurd hnone hsome, fun ds hds => hsame ds hds ▸ h⟩⟩

/-- The message as it is read: only its UID can be mistaken. -/
def read : Except WireFault Fetched :=
  (number (l.lure?.getD (numeral l.uid))).map fun uid => ⟨uid, l.flags, l.raw⟩

theorem fetched_text : fetched? l.text l.raw = l.read.map some := by
  rw [fetched?, uidDigits_text, flagsOf_text, read]
  dsimp only
  cases number (l.lure?.getD (numeral l.uid)) <;> rfl

theorem read_eq_iff : l.read = .ok l.message ↔ l.Legible := by
  rw [legible_iff, read]
  cases number (l.lure?.getD (numeral l.uid)) with
  | error e => exact iff_of_false nofun nofun
  | ok uid => simp [Except.map, message]

end Layout

section

variable {ε α β : Type} {f : α → Except ε β} {xs : List α}

/-- The results of a list are those expected when each is. -/
theorem mapM_eq_ok_iff {g : α → β} :
    xs.mapM f = .ok (xs.map g) ↔ ∀ x ∈ xs, f x = .ok (g x) := by
  induction xs with
  | nil => simp [pure, Except.pure]
  | cons x xs ih =>
    rw [List.mapM_cons, List.forall_mem_cons, ← ih]
    cases f x with
    | error e => exact iff_of_false nofun fun h => nomatch h.1
    | ok y =>
      cases xs.mapM f with
      | error e => exact iff_of_false nofun fun h => nomatch h.2
      | ok ys => simp [pure, Except.pure, bind, Except.bind]

theorem mapM_map_some : (xs.mapM fun x => (f x).map some) = (xs.mapM f).map (List.map some) := by
  induction xs with
  | nil => rfl
  | cons x xs ih =>
    rw [List.mapM_cons, List.mapM_cons, ih]
    cases f x with
    | error e => rfl
    | ok y => cases xs.mapM f <;> rfl

end

/-- **Every message of a response is read**, whatever follows it. -/
theorem readFetch_layouts (layouts : List Layout) :
    readFetch (layouts.flatMap Layout.items) = layouts.mapM Layout.read := by
  rw [readFetch, groups_layouts]
  simp only [Option.toList_none, List.nil_append, bind, Except.bind, List.mapM_map,
    Function.comp_def, Layout.fetched_text, mapM_map_some]
  cases layouts.mapM Layout.read with
  | error e => rfl
  | ok messages => simp [Except.map, pure, Except.pure]

/-- **When a FETCH response is read back.**  Every message comes with its UID, its flags
and its octets, whatever the order in which they are written and whatever follows, exactly
when no message is mistaken. -/
theorem fetch_read_back (layouts : List Layout) :
    readFetch (layouts.flatMap Layout.items) = .ok (layouts.map Layout.message)
      ↔ ∀ l ∈ layouts, l.Legible := by
  rw [readFetch_layouts, mapM_eq_ok_iff]
  exact forall₂_congr fun l _ => l.read_eq_iff

/-- A message with the flags `UID` and `5` in front of its UID, which is 7. -/
def mistaken : Layout where
  place := 1
  uid := 7
  flags := ["UID", "5"]
  raw := octets "abc"
  before := [.flags, .uid]
  between := []
  last := []
  later := []
  words := by decide
  complete := by decide

/-- A flag is taken for the UID. -/
theorem fetch_takes_flag_for_uid :
    readFetch mistaken.items = .ok [⟨5, ["UID", "5"], octets "abc"⟩]
      ∧ ¬ ∀ layouts : List Layout,
        readFetch (layouts.flatMap Layout.items) = .ok (layouts.map Layout.message) :=
  ⟨by decide +kernel, fun h => absurd (h [mistaken]) (by decide +kernel)⟩

end Mailroom.Imap
