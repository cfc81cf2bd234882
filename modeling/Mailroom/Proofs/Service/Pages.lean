import Mathlib.Data.List.Forall2
import Mailroom.Proofs.Filter.RoundTrip
import Mailroom.Proofs.Imap.Obliging
import Mailroom.Proofs.Imap.Reference
import Mailroom.Proofs.Number.Quotient
import Mailroom.Service
/-!
  Mailroom.Proofs.Service.Pages
  ────────────────────────────────
  **THE PAGES OF A FOLDER SHOW EACH OF ITS MESSAGES ONCE.**

  On an obliging server the messages of a folder are ranked by UID, the highest first,
  and cut into chunks of the size of a page, whatever the order in which the server
  lists them.  Each page shows one chunk without the messages that the filter leaves out,
  so the pages together show all that it admits.

      Expr.holds_iff          — what a filter says of a set of flags
      flatMap_chunk           — the chunks of a list make it up
      returns_fetchPage       — a page is a chunk of the ranked folder
      yields_messages         — the same of the whole operation, with a filter
      everything_of_pages     — the pages together
      pages_partition         — every page, all pages, and filters that are refused
-/
namespace Mailroom.Filter.Expr

/-! ## §1. Filters. -/

/-- What a filter says of a set of flags. -/
def Satisfied (flags : Finset String) : Expr → Prop
  | tag name => name ∈ flags
  | and l r => l.Satisfied flags ∧ r.Satisfied flags
  | or l r => l.Satisfied flags ∨ r.Satisfied flags
  | not e => ¬ e.Satisfied flags

theorem holds_iff (flags : List String) (e : Expr) :
    e.holds flags = true ↔ e.Satisfied flags.toFinset := by
  induction e with
  | tag name => simp [holds, Satisfied]
  | and l r ihl ihr => simp [holds, Satisfied, ihl, ihr]
  | or l r ihl ihr => simp [holds, Satisfied, ihl, ihr]
  | not e ih => rw [holds, Satisfied, Bool.not_eq_true', ← Bool.not_eq_true, ih]

instance decidableSatisfied (flags : Finset String) : (e : Expr) → Decidable (e.Satisfied flags)
  | tag name => inferInstanceAs (Decidable (name ∈ flags))
  | and l r =>
    have := decidableSatisfied flags l
    have := decidableSatisfied flags r
    inferInstanceAs (Decidable (_ ∧ _))
  | or l r =>
    have := decidableSatisfied flags l
    have := decidableSatisfied flags r
    inferInstanceAs (Decidable (_ ∨ _))
  | not e =>
    have := decidableSatisfied flags e
    inferInstanceAs (Decidable (¬ _))

end Mailroom.Filter.Expr

namespace Mailroom.Service

open Mailroom.Directory Mailroom.Filter Mailroom.Imap Mailroom.Mail Mailroom.Scan

/-- A filter, if there is one, leaves a message in. -/
def Admits (filter : Option Expr) (k : Kept) : Prop := ∀ e ∈ filter, e.Satisfied k.flags

instance (filter : Option Expr) (k : Kept) : Decidable (Admits filter k) := by
  unfold Admits
  infer_instance

/-- The messages that a filter leaves in. -/
def admitted (filter : Option Expr) (kept : List Kept) : List Kept :=
  kept.filter fun k => Admits filter k

@[simp] theorem admitted_none (kept : List Kept) : admitted none kept = kept := by
  simp [admitted, Admits]

/-- The text of a filter that is one tag. -/
theorem filterOf_tag {name : String} (h : IsTagName name) :
    filterOf (some name) = .ok (some (.tag name)) := by
  have hgiven : (some name).filter (· != "") = some name := by simp [Option.filter, h.nonempty]
  have hwritable : (Expr.tag name).Writable := h
  have hparse : Filter.parse name = .ok (.tag name) := hwritable.parse_text
  unfold filterOf
  rw [hgiven]
  simp only [hparse]

/-! ## §2. Chunks. -/

/-- The chunk of a list with a number, the first being 1. -/
def chunk {α : Type} (size : Nat) (number : Int) (xs : List α) : List α :=
  (xs.drop ((number - 1) * size).toNat).take size

theorem chunk_sublist {α : Type} (size : Nat) (number : Int) (xs : List α) :
    (chunk size number xs).Sublist xs :=
  (List.take_sublist _ _).trans (List.drop_sublist _ _)

/-- The first chunks of a list make up its start. -/
theorem flatMap_chunk {α : Type} (size count : Nat) (xs : List α) :
    (List.range count).flatMap (fun i : Nat => chunk size ((i : Int) + 1) xs)
      = xs.take (count * size) := by
  induction count with
  | zero => simp
  | succ count ih =>
    have hplace : (((count : Int) + 1 - 1) * size).toNat = count * size := by
      rw [Int.add_sub_cancel]
      exact Int.toNat_natCast (count * size)
    rw [List.range_succ, List.flatMap_append, ih, List.flatMap_singleton, chunk, hplace,
      Nat.succ_mul, List.take_add]

/-- There are enough chunks for a whole list. -/
theorem length_le_pagesOf (size : Nat) (hsize : 0 < size) (total : Nat) :
    total ≤ pagesOf total size * size := by
  have hceil : (total + size - 1) / size ≤ pagesOf total size := le_max_right _ _
  exact (Number.Binary64.ceilDiv_le_iff hsize).1 hceil

/-- Messages ranked by UID, the highest first. -/
def ranked (kept : List Kept) : List Kept := kept.mergeSort fun k l => l.uid ≤ k.uid

theorem ranked_perm (kept : List Kept) : (ranked kept).Perm kept := List.mergeSort_perm _ _

/-- The ranked messages of UIDs that are known in ascending order. -/
theorem ranked_uids {kept : List Kept} {uids : List Int} (hsorted : uids.Pairwise (· ≤ ·))
    (hperm : uids.Perm (kept.map (·.uid))) : (ranked kept).map (·.uid) = uids.reverse := by
  -- All of the newest messages, as many as there are, are the ranked folder.
  have hall : newest kept.length kept = ranked kept := by
    rw [newest, Int.toNat_natCast]
    exact List.take_of_length_le (ranked_perm kept).length_eq.le
  have hlength : uids.reverse.length ≤ kept.length := by
    rw [List.length_reverse, hperm.length_eq, List.length_map]
  rw [← hall, newest_uids hsorted hperm, Int.toNat_natCast, List.take_of_length_le hlength]

theorem ranked_order {kept : List Kept} (hnodup : (kept.map (·.uid)).Nodup) :
    (ranked kept).Pairwise fun k l => l.uid < k.uid :=
  pairwise_mergeSort_strict hnodup

/-! ## §3. One page. -/

/-- A folder whose messages can be read, each of its own UID, and few enough to count. -/
structure Readable (previewLength : Int) (kept : List Kept) : Prop where
  few : kept.length < 2 ^ 53
  distinct : (kept.map (·.uid)).Nodup
  read : ∀ k ∈ kept, (shown? previewLength k).isSome

/-- A page of a folder, as somebody who asked for a number gets it: the nearest page that
there is, with snapshots of the messages of its chunk that the filter admits. -/
structure IsPage (previewLength : Int) (kept : List Kept) (size : Nat) (filter : Option Expr)
    (asked : Int) (page : Page) : Prop where
  total : page.total = kept.length
  totalPages : page.totalPages = pagesOf kept.length size
  nearest : page.page = min (max asked 1) page.totalPages
  few : page.messages.length ≤ size
  messages : List.Forall₂ (Snapshot previewLength)
    (admitted filter (chunk size page.page (ranked kept))) page.messages

/-- A whole folder, as far as a filter admits it. -/
structure Everything (previewLength : Int) (kept : List Kept) (filter : Option Expr)
    (shown : List Message) : Prop extends Listing previewLength (admitted filter kept) shown where
  whole : ∀ k ∈ admitted filter kept, ∃ m ∈ shown, Snapshot previewLength k m

section

variable {p : Int} {kept : List Kept} {size : Nat} {filter : Option Expr} {asked : Int}
  {page : Page}

/-- A filter holds of a message as of its snapshot. -/
theorem admitted_selected {ks : List Kept} {ms : List Message} (e : Expr)
    (h : List.Forall₂ (Snapshot p) ks ms) :
    List.Forall₂ (Snapshot p) (admitted (some e) ks) (selected e ms) := by
  refine List.rel_filter (fun k m hkm => ?_) h
  show decide (Admits (some e) k) = true ↔ e.holds m.flags = true
  rw [decide_eq_true_eq, Expr.holds_iff, hkm.flags]
  simp [Admits]

/-- A filter applies to a page as to the folder. -/
theorem IsPage.filtered (h : IsPage p kept size none asked page) (filter : Option Expr) :
    IsPage p kept size filter asked (filtered filter page) := by
  have hmessages := h.messages
  rw [admitted_none] at hmessages
  cases filter with
  | none => exact h
  | some e =>
    exact ⟨h.total, h.totalPages, h.nearest, (List.length_filter_le _ _).trans h.few,
      admitted_selected e hmessages⟩

/-- What is fetched for the UIDs of a chunk are snapshots of its messages. -/
theorem forall₂_of_excerpt {uids : List Int} {number : Int} {ms : List Message}
    (hsorted : uids.Pairwise (· ≤ ·)) (hperm : uids.Perm (kept.map (·.uid)))
    (hdistinct : (kept.map (·.uid)).Nodup) (h : Excerpt p True kept (pageOf uids size number) ms) :
    List.Forall₂ (Snapshot p) (chunk size number (ranked kept)) ms := by
  -- The UIDs that are asked for are those of the chunk, so the order of the answer is known.
  have huids : pageOf uids size number = (chunk size number (ranked kept)).map (·.uid) := by
    rw [chunk, List.map_take, List.map_drop, ranked_uids hsorted hperm, pageOf, Int.toNat_natCast]
  have hsub : ∀ k ∈ chunk size number (ranked kept), k ∈ kept := fun k hk =>
    (ranked_perm kept).mem_iff.1 ((chunk_sublist _ _ _).subset hk)
  refine Listing.forall₂ h.truthful hdistinct hsub ?_
  rw [← huids]
  refine h.uids_eq trivial ?_ fun u hu => ?_
  · rw [huids, List.pairwise_map]
    exact (ranked_order hdistinct).sublist (chunk_sublist _ _ _)
  · rw [huids] at hu
    obtain ⟨k, hk, rfl⟩ := List.mem_map.1 hu
    exact ⟨k, hsub k hk, rfl⟩

end

section

variable {sentFolder : String} {found : Directory.Request → Directory.Outcome → Prop}
  {site : Site} {ss : Session}

/-- **A page is a chunk of the ranked folder.** -/
theorem returns_fetchPage {folder : String} {limit asked : Int} (hlimit : 1 ≤ limit)
    (hnew : ss.selected = none) (h : Readable ss.previewLength (site.folders folder)) :
    Returns (obliging sentFolder found) (fetchPage folder limit asked) (fun page _ s' =>
      IsPage ss.previewLength (site.folders folder) limit.toNat none asked page ∧
        s'.folders = site.folders) ss site := by
  obtain ⟨size, rfl⟩ : ∃ size : Nat, limit = size := ⟨limit.toNat, by omega⟩
  unfold fetchPage
  rw [max_eq_right hlimit]
  refine Returns.bind (returns_select hnew) fun _ ss₁ s₁ h₁ => ?_
  obtain ⟨rfl, hlength⟩ := h₁
  refine Returns.bind (returns_search rfl) fun uids ss₂ s₂ h₂ => ?_
  obtain ⟨rfl, rfl, hsorted, hperm⟩ := h₂
  -- Every message meets the criterion of the search, so all of them are counted.
  have hperm : uids.Perm ((site.folders folder).map (·.uid)) := by
    simpa [Kept.meets] using hperm
  have htotal : uids.length = (site.folders folder).length := by
    rw [hperm.length_eq, List.length_map]
  have hfew := h.few
  rw [paginate?_eq (by omega) (by omega)]
  dsimp only
  refine Returns.bind (returns_fetch rfl (hlength.symm ▸ h.read)) fun ms ss₃ s₃ h₃ => ?_
  obtain ⟨rfl, rfl, hex⟩ := h₃
  rw [hlength] at hex
  have hshown := forall₂_of_excerpt hsorted hperm h.distinct hex
  refine Returns.pure ⟨⟨htotal, by rw [htotal]; rfl, rfl, ?_, ?_⟩, rfl⟩
  · rw [← hshown.length_eq]
    exact List.length_take_le _ _
  · rw [admitted_none]
    exact hshown

/-- **A session in a folder**: what its body returns is what the operation yields. -/
theorem yields_inMailbox {α : Type} {s : Service} {email name : String} {m : Mailbox}
    {f : String → SessionM α} {R : α → Site → Prop} (hm : Registered found s.directory email m)
    (h : ∀ ss s', ss.selected = none → ss.previewLength = s.transport.previewLength →
      s'.folders = site.folders →
      Returns (obliging sentFolder found) (f (folderOf sentFolder name)) (fun a _ t => R a t)
        ss s') :
    Yields (obliging sentFolder found) (s.inMailbox email do f (← resolve name)) R site := by
  unfold inMailbox
  refine Yields.bind (yields_mailboxAt hm) fun _ _ hfound => ?_
  obtain ⟨rfl, rfl⟩ := hfound
  refine yields_within fun ss₁ s₁ hopened hfolders => ?_
  refine Returns.bind (returns_resolve name hopened) fun folder ss₂ s₂ h₂ => ?_
  obtain ⟨hfolder, rfl, hselected, hlength⟩ := h₂
  rw [hfolder]
  exact h ss₂ _ hselected hlength hfolders

/-- **Every page can be read**, whatever number is asked for. -/
theorem yields_messages {s : Service} {email name : String} {m : Mailbox} {limit : Option Int}
    {asked : Int} {text : Option String} {filter : Option Expr}
    (hm : Registered found s.directory email m) (hfilter : filterOf text = .ok filter)
    (h : Readable s.transport.previewLength (site.folders (folderOf sentFolder name))) :
    Yields (obliging sentFolder found) (s.messages email name limit asked text) (fun page s' =>
      IsPage s.transport.previewLength (site.folders (folderOf sentFolder name))
        (s.pageSize limit).toNat filter asked page ∧ s'.folders = site.folders) site := by
  have hfetch : ∀ ss s', ss.selected = none → ss.previewLength = s.transport.previewLength →
      s'.folders = site.folders →
      Returns (obliging sentFolder found)
        (fetchPage (folderOf sentFolder name) (s.pageSize limit) asked) (fun page _ t =>
          IsPage s.transport.previewLength (site.folders (folderOf sentFolder name))
            (s.pageSize limit).toNat none asked page ∧ t.folders = site.folders) ss s' := by
    intro ss s' hnew hlength hfolders
    rw [← hlength, ← hfolders] at h ⊢
    exact returns_fetchPage (le_max_left _ _) hnew h
  unfold messages
  refine Yields.ofExcept_bind hfilter ?_
  refine Yields.bind (yields_inMailbox (f := fun folder =>
    fetchPage folder (s.pageSize limit) asked) hm hfetch) fun page s' hpage => ?_
  exact Yields.pure ⟨hpage.1.filtered filter, hpage.2⟩

end

/-! ## §4. All pages. -/

/-- Reads the pages of a folder from the first to the last, as many as the first page says
that there are. -/
def allPages (s : Service) (email folder : String) (limit : Option Int) (filter : Option String) :
    Program (List Page) := do
  let first ← s.messages email folder limit 1 filter
  (List.range first.totalPages.toNat).mapM fun i : Nat =>
    s.messages email folder limit ((i : Int) + 1) filter

section

variable {p : Int} {kept : List Kept} {size : Nat} {filter : Option Expr} {pages : List Page}

theorem uids_of_snapshots {ks : List Kept} {ms : List Message}
    (h : List.Forall₂ (Snapshot p) ks ms) : ms.map (·.uid) = ks.map (·.uid) := by
  induction h with
  | nil => rfl
  | cons hkm _ ih => rw [List.map_cons, List.map_cons, hkm.uid_eq, ih]

/-- Snapshots of the ranked folder, as far as a filter admits it, are everything. -/
theorem Everything.of_ranked {shown : List Message} (hnodup : (kept.map (·.uid)).Nodup)
    (h : List.Forall₂ (Snapshot p) (admitted filter (ranked kept)) shown) :
    Everything p kept filter shown := by
  have hmem : ∀ k, k ∈ admitted filter (ranked kept) ↔ k ∈ admitted filter kept :=
    fun k => ((ranked_perm kept).filter _).mem_iff
  have huids := uids_of_snapshots h
  refine ⟨⟨?_, fun m hm => ?_⟩, fun k hk => ?_⟩
  · rw [← List.pairwise_map (f := Message.uid) (R := fun u v => v < u), huids, List.pairwise_map]
    exact (ranked_order hnodup).sublist List.filter_sublist
  · obtain ⟨k, hk, hkm⟩ := exists_of_forall₂ h hm
    exact ⟨k, (hmem k).1 hk, hkm⟩
  · exact exists_of_forall₂ h.flip ((hmem k).2 hk)

/-- **The pages of a folder together show everything.** -/
theorem everything_of_pages (hsize : 0 < size) (hnodup : (kept.map (·.uid)).Nodup)
    (h : List.Forall₂ (fun i page => i < pagesOf kept.length size ∧
      IsPage p kept size filter ((i : Int) + 1) page)
      (List.range (pagesOf kept.length size)) pages) :
    Everything p kept filter (pages.flatMap (·.messages)) := by
  have hchunks : List.Forall₂ (Snapshot p)
      ((List.range (pagesOf kept.length size)).flatMap fun i : Nat =>
        admitted filter (chunk size ((i : Int) + 1) (ranked kept)))
      (pages.flatMap (·.messages)) := by
    refine List.rel_flatMap h fun i page hi => ?_
    obtain ⟨hlt, hpage⟩ := hi
    -- The number is one that there is, so the nearest page is the one asked for.
    have hnumber : page.page = (i : Int) + 1 := by
      rw [hpage.nearest, hpage.totalPages]
      omega
    exact hnumber ▸ hpage.messages
  refine Everything.of_ranked hnodup ?_
  have hall : (ranked kept).length ≤ pagesOf kept.length size * size := by
    rw [(ranked_perm kept).length_eq]
    exact length_le_pagesOf size hsize kept.length
  have hranked := flatMap_chunk size (pagesOf kept.length size) (ranked kept)
  rw [List.take_of_length_le hall] at hranked
  rw [← hranked]
  -- To filter chunk by chunk is to filter the whole.
  unfold admitted at hchunks ⊢
  rw [List.filter_flatMap]
  exact hchunks

end

section

variable {sentFolder : String} {found : Directory.Request → Directory.Outcome → Prop}
  {site : Site}

theorem yields_allPages {s : Service} {email name : String} {m : Mailbox} {limit : Option Int}
    {text : Option String} {filter : Option Expr} (hm : Registered found s.directory email m)
    (hfilter : filterOf text = .ok filter)
    (h : Readable s.transport.previewLength (site.folders (folderOf sentFolder name))) :
    Yields (obliging sentFolder found) (s.allPages email name limit text) (fun pages _ =>
      Everything s.transport.previewLength (site.folders (folderOf sentFolder name)) filter
        (pages.flatMap (·.messages))) site := by
  have hsize : 0 < (s.pageSize limit).toNat := by
    have hone : 1 ≤ s.pageSize limit := le_max_left _ _
    omega
  unfold allPages
  refine Yields.bind (yields_messages hm hfilter h) fun first s₁ hfirst => ?_
  have hcount : first.totalPages.toNat
      = pagesOf (site.folders (folderOf sentFolder name)).length (s.pageSize limit).toNat := by
    rw [hfirst.1.totalPages, Int.toNat_natCast]
  rw [hcount]
  -- No page changes anything, so each is read from the same folder.
  refine (Yields.mapM (I := fun s' : Site => s'.folders = site.folders) (T := fun i page =>
    i < pagesOf (site.folders (folderOf sentFolder name)).length (s.pageSize limit).toNat ∧
      IsPage s.transport.previewLength (site.folders (folderOf sentFolder name))
        (s.pageSize limit).toNat filter ((i : Int) + 1) page)
    (fun i hi s₂ hs₂ => ?_) hfirst.2).mono fun pages s₂ hpages =>
      everything_of_pages hsize h.distinct hpages.1
  rw [← hs₂] at h hi ⊢
  exact (yields_messages hm hfilter h).mono fun page s₃ hpage =>
    ⟨⟨List.mem_range.1 hi, hpage.1⟩, hpage.2⟩

end

/-- **The pages of a folder show each message that the filter admits once.**  On an
obliging server, and whatever size of a page and whatever number are asked for, the
nearest page comes back with its chunk of the folder; and all pages together show, the
highest UID first, everything that the filter admits.  A filter that is refused is
refused before anything is asked. -/
theorem pages_partition (s : Service) (email name : String) (limit : Option Int) :
    (∀ (sentFolder : String) (found : Directory.Request → Directory.Outcome → Prop) (m : Mailbox)
      (site : Site) (text : Option String) (filter : Option Expr),
      Registered found s.directory email m → filterOf text = .ok filter →
      Readable s.transport.previewLength (site.folders (folderOf sentFolder name)) →
      (∀ asked tr x t, Dialogue.Ends (obliging sentFolder found)
          (s.messages email name limit asked text).run site tr x t →
        ∃ page, x = .ok page ∧ IsPage s.transport.previewLength
          (site.folders (folderOf sentFolder name)) (s.pageSize limit).toNat filter asked page) ∧
      ∀ tr x t, Dialogue.Ends (obliging sentFolder found)
          (s.allPages email name limit text).run site tr x t →
        ∃ pages, x = .ok pages ∧ Everything s.transport.previewLength
          (site.folders (folderOf sentFolder name)) filter (pages.flatMap (·.messages))) ∧
    ∀ text refusal, text ≠ "" → Filter.parse text = .error refusal → ∀ asked,
      (s.messages email name limit asked (some text)).run = .pure (.error (.filter refusal)) := by
  refine ⟨fun sentFolder found m site text filter hm hfilter h =>
    ⟨fun asked tr x t hrun => ?_, fun tr x t hrun => ?_⟩, fun text refusal hne hparse asked => ?_⟩
  · obtain ⟨page, hx, hpage, -⟩ := (yields_messages hm hfilter h).ends hrun
    exact ⟨page, hx, hpage⟩
  · exact (yields_allPages hm hfilter h).ends hrun
  · have hrefused : filterOf (some text) = .error (.filter refusal) := by
      have hgiven : (some text).filter (· != "") = some text := by simp [Option.filter, hne]
      unfold filterOf
      rw [hgiven]
      simp only [hparse]
    unfold messages
    rw [hrefused]
    rfl

namespace Sample

/-- A short letter. -/
def letter (uid : Int) (flags : Finset String) : Kept where
  uid
  flags
  raw := octets "From: you@y.io\r\nSubject: Hello\r\n\r\nHi"

/-- A server with some letters in the inbox. -/
def shelf (letters : List Kept) : Site where
  folders := fun n => if n = inbox then letters else []

/-- A record of a mailbox that serves for the listing of mailboxes as well. -/
def record : Json := .object [("id", .int 1), ("email", .text "me@x.io"),
  ("data", .list [.object [("id", .int 1), ("email", .text "me@x.io")]])]

/-- A server that keeps the law, and a directory with the record. -/
def clerk : Reference where
  sent := "Sent"
  record := record
  names := ["beta"]
  judge := fun _ => .error ""

/-- What the directory supplies. -/
def supply (_ : Directory.Request) (r : Directory.Outcome) : Prop :=
  r = Simulation.World.found record

/-- A service with the settings that are used where nothing is configured. -/
def reader : Service where
  settings := {}
  directory := { key := "key" }
  transport := {}
  sender := {}

/-- Reading all pages of the inbox. -/
def reading : Dialogue (Except Failure (List Page)) :=
  (reader.allPages "me@x.io" "inbox" (some 2) none).run

/-- Any client finds the mailbox there. -/
theorem registered_record {c : Client} (h : 0 ≤ c.maxRetries) :
    ∃ m, Registered supply c "me@x.io" m := by
  have hbrings : ∀ url, Brings supply url record := fun url q r _ hr => ⟨_, hr, by decide, rfl⟩
  exact ⟨_, h, record, _, _, record, hbrings _, rfl, rfl, hbrings _, rfl⟩

theorem registered_supply : ∃ m, Registered supply reader.directory "me@x.io" m :=
  registered_record (by decide)

theorem filterOf_beta : filterOf (some "beta") = .ok (some (.tag "beta")) := filterOf_tag (by decide)

/-- What is wrong with a filter that is a bracket. -/
def bracket : SyntaxError := ⟨")", .operandExpected ⟨.rparen, ")", 0⟩⟩

theorem parse_bracket : Filter.parse ")" = .error bracket := by
  have htokens : tokenize ")" = [⟨.rparen, ")", 0⟩] := by decide +kernel
  have hor : parseOr [⟨.rparen, ")", 0⟩] = .error (.operandExpected ⟨.rparen, ")", 0⟩) :=
    parseOr_of_error (parseAnd_of_error
      ((parseNot_of_ne (by decide)).trans (parseAtom_of_ne [] (by decide))))
  rw [Filter.parse, htokens, parseTokens, hor]
  rfl

theorem readable_shelf :
    Readable 200 ((shelf [letter 5 {"beta"}, letter 9 ∅, letter 3 {"beta"}]).folders inbox) :=
  ⟨by decide, by decide, by decide +kernel⟩

theorem readable_single : Readable 200 ((shelf [letter 5 ∅]).folders inbox) :=
  ⟨by decide, by decide, by decide +kernel⟩

end Sample

open Sample in
/-- Asked for the seventh page of three letters, two to a page, the server gives the second;
there is a run in which all pages of a letter are read; and a bracket is no filter. -/
theorem pages_partition_sample :
    (∀ tr x t, Dialogue.Ends (obliging "Sent" supply)
        (reader.messages "me@x.io" "inbox" (some 2) 7 (some "beta")).run
        (shelf [letter 5 {"beta"}, letter 9 ∅, letter 3 {"beta"}]) tr x t →
      ∃ page, x = .ok page ∧ page.total = 3 ∧ page.page = 2) ∧
    (∃ tr pages t, Dialogue.Ends (obliging "Sent" supply) reading (shelf [letter 5 ∅]) tr
        (.ok pages) t ∧
      Everything 200 [letter 5 ∅] none (pages.flatMap (·.messages))) ∧
    (reader.messages "me@x.io" "inbox" (some 2) 1 (some ")")).run
      = .pure (.error (.filter bracket)) := by
  obtain ⟨m, hm⟩ := registered_supply
  have hinbox : folderOf "Sent" "inbox" = inbox := by decide +kernel
  obtain ⟨haccepted, hrefused⟩ := pages_partition reader "me@x.io" "inbox" (some 2)
  refine ⟨fun tr x t hrun => ?_, ?_, hrefused ")" bracket (by decide) parse_bracket 1⟩
  · obtain ⟨page, hx, hpage⟩ := (haccepted "Sent" supply m _ _ _ hm filterOf_beta
      (hinbox.symm ▸ readable_shelf)).1 7 tr x t hrun
    rw [hinbox] at hpage
    have hcount : page.totalPages = 2 := hpage.totalPages
    exact ⟨page, hx, hpage.total, by rw [hpage.nearest, hcount]; decide⟩
  · -- One letter and no filter: sorting and parsing do not unfold in the kernel.
    have hgranted : (reading.trace clerk.answer (shelf [letter 5 ∅])).all isGranted = true := by
      decide +kernel
    have hrun := clerk.ends_obliging hgranted
    obtain ⟨pages, hx, heverything⟩ := (haccepted "Sent" supply m _ none none hm rfl
      (hinbox.symm ▸ readable_single)).2 _ _ _ hrun
    rw [hinbox] at heverything
    rw [hx] at hrun
    exact ⟨_, pages, _, hrun, heverything⟩

end Mailroom.Service
