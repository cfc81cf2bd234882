import Mathlib.Data.List.Forall2
import Mathlib.Data.List.Sort
import Mailroom.Proofs.Scan.Moment
/-!
  Mailroom.Proofs.Scan.Listing
  ────────────────────────────────
  **PAGES OF MESSAGES, AND WHAT THEY SHOW OF A FOLDER.**

  A message is a `Snapshot` of one that a server keeps when it was read from its
  octets and has its flags.  A `Listing` of a folder is a page of snapshots, the
  highest UID first, each UID once.  An answer to FETCH reads as an `Excerpt` of the
  UIDs asked for.  Where the server is honest, and these are the last ones that a
  search found, it is `Recent`: the `newest` messages found, one by one.
-/
namespace Mailroom.Scan

open Mailroom.Imap Mailroom.Mail

/-! ## §1. Snapshots. -/

/-- A message that was read from one that a server keeps. -/
structure Snapshot (previewLength : Int) (k : Kept) (m : Message) : Prop where
  read : Message.ofOctets k.uid k.raw m.flags previewLength = .ok m
  flags : m.flags.toFinset = k.flags

/-- The flags have no influence on what else is read. -/
theorem ofOctets_map (uid : Int) (raw : Octets) (flags : List String) (p : Int) :
    Message.ofOctets uid raw flags p
      = (Message.ofOctets uid raw [] p).map fun m => { m with flags } := by
  unfold Message.ofOctets
  cases Mime.Entity.ofOctets raw with
  | error f => rfl
  | ok e =>
    simp only [bind, Except.bind]
    cases e.bodyText (2 * raw.length + 8) with
    | error f => rfl
    | ok preview =>
      simp only
      cases addressesOf (e.head.glyphs? "from") with
      | error f => rfl
      | ok sender =>
        simp only
        cases addressesOf (e.head.glyphs? "to") with
        | error f => rfl
        | ok addressees =>
          simp only
          cases dateOf (e.head.glyphs? "date") with
          | error f => rfl
          | ok date => simp only [pure, Except.pure, Except.map]

theorem uid_flags_of_ofOctets {uid p : Int} {raw : Octets} {flags : List String} {m : Message}
    (h : Message.ofOctets uid raw flags p = .ok m) : m.uid = uid ∧ m.flags = flags := by
  unfold Message.ofOctets at h
  simp only [bind, Except.bind] at h
  -- Every reading on the way may fail, and only the last case is a message.
  repeat' split at h
  all_goals cases h
  exact ⟨rfl, rfl⟩

/-- What a message says, whatever its flags; nothing if it cannot be read. -/
def shown? (previewLength : Int) (k : Kept) : Option Message :=
  (Message.ofOctets k.uid k.raw [] previewLength).toOption

namespace Snapshot

variable {p : Int} {k : Kept} {m : Message}

theorem uid_eq (h : Snapshot p k m) : m.uid = k.uid := (uid_flags_of_ofOctets h.read).1

theorem mem_flags (h : Snapshot p k m) {flag : String} : flag ∈ m.flags ↔ flag ∈ k.flags := by
  rw [← h.flags, List.mem_toFinset]

/-- A snapshot is what the message says, with its flags. -/
theorem shown?_eq (h : Snapshot p k m) : shown? p k = some { m with flags := [] } := by
  have hread := h.read
  rw [ofOctets_map] at hread
  unfold shown?
  cases hm : Message.ofOctets k.uid k.raw [] p with
  | error f => rw [hm] at hread; cases hread
  | ok m₀ =>
    rw [hm] at hread
    have hm₀ : { m₀ with flags := m.flags } = m := Except.ok.inj hread
    have hf : m₀.flags = [] := (uid_flags_of_ofOctets hm).2
    rw [← hm₀, ← hf]
    rfl

end Snapshot

/-- Answers to messages do not depend on flags. -/
theorem answers_flags (reply sent : Message) (fs gs : List String) :
    Thread.answers { reply with flags := fs } { sent with flags := gs }
      = Thread.answers reply sent := rfl

/-! ## §2. Listings. -/

/-- A page of messages of a folder, the highest UID first and each UID once. -/
structure Listing (previewLength : Int) (kept : List Kept) (page : List Message) : Prop where
  order : page.Pairwise fun m n => n.uid < m.uid
  truthful : ∀ m ∈ page, ∃ k ∈ kept, Snapshot previewLength k m

theorem pairwise_mergeSort_key {α : Type} (key : α → Int) (as : List α) :
    (as.mergeSort fun a b => key b ≤ key a).Pairwise fun a b => key b ≤ key a := by
  have h : (as.mergeSort fun a b => key b ≤ key a).Pairwise fun a b =>
      decide (key b ≤ key a) = true := List.pairwise_mergeSort
    (by intro a b c hab hbc; simp only [decide_eq_true_eq] at *; omega)
    (by intro a b; simp only [Bool.or_eq_true, decide_eq_true_eq]; omega) as
  exact h.imp fun hle => by simpa using hle

/-- The sorting is by `≤`; distinct keys make it strict. -/
theorem pairwise_mergeSort_strict {α : Type} {key : α → Int} {as : List α}
    (h : (as.map key).Nodup) :
    (as.mergeSort fun a b => key b ≤ key a).Pairwise fun a b => key b < key a := by
  have hnodup : (as.mergeSort fun a b => key b ≤ key a).Pairwise fun a b => key a ≠ key b := by
    rw [← List.pairwise_map (f := key) (R := (· ≠ ·))]
    exact ((List.mergeSort_perm _ _).map _).nodup_iff.2 h
  exact ((pairwise_mergeSort_key key as).and hnodup).imp fun ⟨hle, hne⟩ =>
    lt_of_le_of_ne hle (Ne.symm hne)

theorem newestFirst_perm (ms : List Message) : (newestFirst ms).Perm ms := List.mergeSort_perm _ _

theorem newestFirst_order {ms : List Message} (h : (ms.map (·.uid)).Nodup) :
    (newestFirst ms).Pairwise fun m n => n.uid < m.uid :=
  pairwise_mergeSort_strict h

theorem Listing.nodup {p : Int} {kept : List Kept} {page : List Message}
    (h : Listing p kept page) : (page.map (·.uid)).Nodup := by
  rw [List.Nodup, List.pairwise_map]
  exact h.order.imp fun hlt => ne_of_gt hlt

theorem Listing.filter {p : Int} {kept : List Kept} {page : List Message}
    (h : Listing p kept page) (f : Message → Bool) : Listing p kept (page.filter f) where
  order := h.order.filter f
  truthful m hm := h.truthful m (List.mem_of_mem_filter hm)

theorem forall₂_of_mapM {ε α β : Type} {f : α → Except ε β} {as : List α} {bs : List β}
    (h : as.mapM f = .ok bs) : List.Forall₂ (fun a b => f a = .ok b) as bs := by
  induction as generalizing bs with
  | nil => cases h; exact .nil
  | cons a as ih =>
    rw [List.mapM_cons] at h
    cases ha : f a with
    | error e => rw [ha] at h; cases h
    | ok b =>
      rw [ha] at h
      cases hs : as.mapM f with
      | error e => rw [hs] at h; cases h
      | ok bs' =>
        rw [hs] at h
        cases h
        exact .cons ha (ih hs)

theorem exists_mapM {ε α β : Type} {f : α → Except ε β} {as : List α}
    (h : ∀ a ∈ as, ∃ b, f a = .ok b) : ∃ bs, as.mapM f = .ok bs := by
  induction as with
  | nil => exact ⟨[], rfl⟩
  | cons a as ih =>
    obtain ⟨b, hb⟩ := h a List.mem_cons_self
    obtain ⟨bs, hbs⟩ := ih fun x hx => h x (List.mem_cons_of_mem a hx)
    exact ⟨b :: bs, by rw [List.mapM_cons, hb, hbs]; rfl⟩

/-- Reading a list succeeds exactly if reading each of its elements does. -/
theorem exists_mapM_iff {ε α β : Type} {f : α → Except ε β} {as : List α} :
    (∃ bs, as.mapM f = .ok bs) ↔ ∀ a ∈ as, ∃ b, f a = .ok b := by
  refine ⟨?_, exists_mapM⟩
  rintro ⟨bs, h⟩ a ha
  obtain ⟨i, hi, rfl⟩ := List.getElem_of_mem ha
  have hall := forall₂_of_mapM h
  exact ⟨_, hall.get hi (hall.length_eq ▸ hi)⟩

theorem exists_of_forall₂ {α β : Type} {R : α → β → Prop} {as : List α} {bs : List β} {b : β}
    (h : List.Forall₂ R as bs) (hb : b ∈ bs) : ∃ a ∈ as, R a b := by
  induction h with
  | nil => cases hb
  | cons hab _ ih =>
    rcases List.mem_cons.1 hb with rfl | hb
    · exact ⟨_, List.mem_cons_self, hab⟩
    · obtain ⟨a, ha, hr⟩ := ih hb
      exact ⟨a, List.mem_cons_of_mem _ ha, hr⟩

/-- A page that was read from an answer to FETCH, with the answer's items. -/
theorem messagesOf_eq_some {p : Int} {r : Except Fault Response} {page : List Message}
    (h : messagesOf p r = some page) :
    ∃ items found ms, accepted? r = some items ∧ readFetch items = .ok found ∧
      List.Forall₂ (fun (f : Fetched) m => Message.ofOctets f.uid f.raw f.flags p = .ok m)
        found ms ∧
      newestFirst ms = page := by
  unfold messagesOf at h
  cases hr : accepted? r with
  | none => simp [hr] at h
  | some items =>
    cases hf : readFetch items with
    | error e => simp [hr, hf, Except.toOption] at h
    | ok found =>
      cases hm : found.mapM fun m => Message.ofOctets m.uid m.raw m.flags p with
      | error e => simp [hr, hf, hm, Except.toOption] at h
      | ok ms =>
        simp only [hr, hf, hm, Except.toOption, Option.bind_eq_bind, Option.bind_some,
          Option.pure_def, Option.some.injEq] at h
        exact ⟨items, found, ms, rfl, hf, forall₂_of_mapM hm, h⟩

/-- A listing of messages with certain UIDs: of all of them, if it is complete. -/
structure Excerpt (previewLength : Int) (complete : Prop) (kept : List Kept) (uids : List Int)
    (page : List Message) : Prop extends Listing previewLength kept page where
  asked : ∀ m ∈ page, m.uid ∈ uids
  whole : complete → ∀ k ∈ kept, k.uid ∈ uids → ∃ m ∈ page, m.uid = k.uid

/-- A truthful answer to FETCH reads as an excerpt of what was asked for. -/
theorem Excerpt.of_shown {p : Int} {complete : Prop} {kept : List Kept} {uids : List Int}
    {found : List Fetched} {ms : List Message} (h : Shown complete uids kept found)
    (hm : List.Forall₂ (fun (f : Fetched) m => Message.ofOctets f.uid f.raw f.flags p = .ok m)
      found ms) : Excerpt p complete kept uids (newestFirst ms) := by
  -- Reading a message keeps its UID, so all that FETCH says of UIDs carries over.
  have huids : found.map (·.uid) = ms.map (·.uid) := by
    clear h
    induction hm with
    | nil => rfl
    | cons hab _ ih => simp [ih, (uid_flags_of_ofOctets hab).1]
  have hmem : ∀ m, m ∈ newestFirst ms ↔ m ∈ ms := fun m => (newestFirst_perm ms).mem_iff
  refine ⟨⟨newestFirst_order (huids ▸ h.distinct), ?_⟩, ?_, ?_⟩
  · intro m hm'
    obtain ⟨f, hf, hfm⟩ := exists_of_forall₂ hm ((hmem m).1 hm')
    obtain ⟨k, hk, hu, hr, hfl⟩ := h.truthful f hf
    have hflags := (uid_flags_of_ofOctets hfm).2
    exact ⟨k, hk, ⟨by rw [← hu, ← hr, hflags, hfm], by rw [hflags, hfl]⟩⟩
  · intro m hm'
    obtain ⟨f, hf, hfm⟩ := exists_of_forall₂ hm ((hmem m).1 hm')
    rw [(uid_flags_of_ofOctets hfm).1]
    exact h.asked f hf
  · intro hc k hk hu
    obtain ⟨f, hf, hfu⟩ := h.whole hc k hk hu
    have : k.uid ∈ ms.map (·.uid) := huids ▸ hfu ▸ List.mem_map_of_mem hf
    obtain ⟨m, hm', hmu⟩ := List.mem_map.1 this
    exact ⟨m, (hmem m).2 hm', hmu⟩

/-- An excerpt of no UIDs is empty. -/
theorem Excerpt.nil (p : Int) (complete : Prop) (kept : List Kept) :
    Excerpt p complete kept [] [] :=
  ⟨⟨.nil, by simp⟩, by simp, by simp⟩

/-- Only which UIDs there are counts. -/
theorem Excerpt.congr {p : Int} {complete : Prop} {kept : List Kept} {uids vids : List Int}
    {page : List Message} (h : Excerpt p complete kept uids page)
    (huv : ∀ u, u ∈ uids ↔ u ∈ vids) : Excerpt p complete kept vids page where
  toListing := h.toListing
  asked m hm := (huv _).1 (h.asked m hm)
  whole hc k hk hu := h.whole hc k hk ((huv _).2 hu)

/-! ## §3. The newest messages. -/

/-- The newest `n` of some messages: those with the highest UIDs, the highest
first. -/
def newest (n : Int) (kept : List Kept) : List Kept :=
  (kept.mergeSort fun k l => l.uid ≤ k.uid).take n.toNat

theorem mem_of_mem_newest {n : Int} {kept : List Kept} {k : Kept} (h : k ∈ newest n kept) :
    k ∈ kept :=
  List.mem_mergeSort.1 (List.mem_of_mem_take h)

/-- The newest of messages whose UIDs are known in ascending order. -/
theorem newest_uids {n : Int} {kept : List Kept} {uids : List Int}
    (hsorted : uids.Pairwise (· ≤ ·)) (hperm : uids.Perm (kept.map (·.uid))) :
    (newest n kept).map (·.uid) = uids.reverse.take n.toNat := by
  unfold newest
  rw [List.map_take]
  congr 1
  -- Both lists are in descending order, and they have the same elements.
  refine List.Perm.eq_of_pairwise
    (fun a b _ _ (hab : b ≤ a) (hba : a ≤ b) => le_antisymm hba hab) ?_ ?_ ?_
  · rw [List.pairwise_map]
    exact pairwise_mergeSort_key Kept.uid kept
  · rw [List.pairwise_reverse]
    exact hsorted
  · exact ((List.mergeSort_perm _ _).map _).trans (hperm.symm.trans (List.reverse_perm _).symm)

/-- A complete excerpt of some UIDs of a folder has exactly these, the highest
first. -/
theorem Excerpt.uids_eq {p : Int} {complete : Prop} {kept : List Kept} {page : List Message}
    {uids : List Int} (h : Excerpt p complete kept uids page) (hc : complete)
    (hsorted : uids.Pairwise fun u v => v < u) (hsub : ∀ u ∈ uids, ∃ k ∈ kept, k.uid = u) :
    page.map (·.uid) = uids := by
  refine List.Pairwise.eq_of_mem_iff (r := fun a b : Int => b < a) ?_ hsorted ?_
  · rw [List.pairwise_map]
    exact h.order
  · intro u
    rw [List.mem_map]
    constructor
    · intro h
      obtain ⟨m, hm, rfl⟩ := h
      exact h.asked m hm
    · intro hu
      obtain ⟨k, hk, rfl⟩ := hsub u hu
      exact h.whole hc k hk hu

/-- Where UIDs are unique, a listing with the UIDs of some messages consists of
snapshots of these. -/
theorem Listing.forall₂ {p : Int} {kept ks : List Kept} {page : List Message}
    (htruthful : ∀ m ∈ page, ∃ k ∈ kept, Snapshot p k m) (hnodup : (kept.map (·.uid)).Nodup)
    (hsub : ∀ k ∈ ks, k ∈ kept) (huids : page.map (·.uid) = ks.map (·.uid)) :
    List.Forall₂ (Snapshot p) ks page := by
  induction page generalizing ks with
  | nil =>
    cases ks with
    | nil => exact .nil
    | cons k ks => cases huids
  | cons m page ih =>
    cases ks with
    | nil => cases huids
    | cons k ks =>
      obtain ⟨hu, hus⟩ := List.cons.inj huids
      obtain ⟨l, hl, hs⟩ := htruthful m List.mem_cons_self
      -- The message was read from some `l` of the folder; its UID tells which.
      have hlk : l = k := List.inj_on_of_nodup_map hnodup hl (hsub k List.mem_cons_self)
        (hs.uid_eq.symm.trans hu)
      exact .cons (hlk ▸ hs) (ih (fun m hm => htruthful m (List.mem_cons_of_mem _ hm))
        (fun k hk => hsub k (List.mem_cons_of_mem _ hk)) hus)

/-- A listing of the newest messages that a criterion finds: if it is complete,
and UIDs are unique, it shows these one by one. -/
structure Recent (previewLength : Int) (complete : Prop) (n : Int) (c : Criterion)
    (kept : List Kept) (page : List Message) : Prop extends Listing previewLength kept page where
  whole : complete → (kept.map (·.uid)).Nodup →
    List.Forall₂ (Snapshot previewLength) (newest n (kept.filter (·.meets c))) page

/-- An excerpt of the last UIDs that a search found shows the newest messages. -/
theorem Recent.of_excerpt {p : Int} {complete : Prop} {n : Int} {c : Criterion} {kept : List Kept}
    {uids : List Int} {page : List Message}
    (h : Excerpt p complete kept (uids.reverse.take n.toNat) page)
    (hsorted : uids.Pairwise (· ≤ ·))
    (hperm : complete → uids.Perm ((kept.filter (·.meets c)).map (·.uid))) :
    Recent p complete n c kept page where
  toListing := h.toListing
  whole hc hnodup := by
    have hsub : ∀ k ∈ newest n (kept.filter (·.meets c)), k ∈ kept :=
      fun k hk => List.mem_of_mem_filter (mem_of_mem_newest hk)
    have hnewest : (newest n (kept.filter (·.meets c))).map (·.uid) = uids.reverse.take n.toNat :=
      newest_uids hsorted (hperm hc)
    have hfilter : ((kept.filter (·.meets c)).map (·.uid)).Nodup :=
      hnodup.sublist (List.filter_sublist.map _)
    -- No UID was found twice, so the ascending order is strict.
    have huids : uids.Pairwise (· < ·) :=
      (hsorted.and ((hperm hc).nodup_iff.2 hfilter)).imp fun ⟨hle, hne⟩ => lt_of_le_of_ne hle hne
    refine Listing.forall₂ h.truthful hnodup hsub ?_
    rw [hnewest]
    refine h.uids_eq hc ?_ ?_
    · exact (List.pairwise_reverse.2 huids).sublist (List.take_sublist _ _)
    · intro u hu
      rw [← hnewest] at hu
      obtain ⟨k, hk, rfl⟩ := List.mem_map.1 hu
      exact ⟨k, hsub k hk, rfl⟩

end Mailroom.Scan
