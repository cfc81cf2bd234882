import Mailroom.Proofs.Imap.FlagArgument
import Mailroom.Proofs.Service.Pages
/-!
  Mailroom.Proofs.Service.Counting
  ────────────────────────────────
  **COUNTING A FLAG AND FILTERING BY IT AGREE.**

  A flag is counted by the server, which is asked for a keyword or, for a system flag, by
  the search key of it.  A filter is applied here, to each page of the folder.  Both come
  to the messages that carry the flag, if the flag can be a filter: if it is one word and
  no operator.

      Kept.meets_criterionOf — what the server is asked for
      isTagName_of_flag      — which flags can be filters
      yields_count           — counting
      Everything.length_eq   — how many messages all pages show
      count_agrees           — the two numbers are the same
-/
namespace Mailroom.Imap

open Mailroom.Simulation Mailroom.Text

/-! ## §1. A flag as a criterion, and as a filter. -/

theorem systemFlag_of_key {flag key : String} (h : systemKey? flag = some key) :
    World.systemFlag key = flag := by
  have hall : ∀ entry ∈ systemKeys, World.systemFlag entry.2 = entry.1 := by decide
  exact hall (flag, key) (mem_systemKeys h)

/-- The criterion for a flag finds the messages that carry it, system flags or not. -/
theorem Kept.meets_criterionOf (k : Kept) (flag : String) :
    k.meets (criterionOf flag) = decide (flag ∈ k.flags) := by
  unfold criterionOf
  cases hkey : systemKey? flag with
  | none => rfl
  | some key =>
    show decide (World.systemFlag key ∈ k.flags) = decide (flag ∈ k.flags)
    rw [systemFlag_of_key hkey]

/-- A flag without blanks is one word. -/
theorem isOneWord_of_solid {flag : String} (hflag : isFlag flag = true)
    (hsolid : ∀ c ∈ flag.toList, isBlank c = false) : IsOneWord flag where
  sendable := hflag
  oneLine hmem := absurd (hsolid _ hmem) (by decide)

end Mailroom.Imap

namespace Mailroom.Service

open Mailroom.Directory Mailroom.Filter Mailroom.Imap Mailroom.Mail Mailroom.Scan Mailroom.Text

/-- A flag that is one word and no operator can stand as a tag. -/
theorem isTagName_of_flag {flag : String} (h : IsOneWord flag)
    (hop : ∀ op ∈ operators, isWord op flag = false) : IsTagName flag where
  nonempty := h.ne_empty
  plain c hc := by
    rcases h.mem hc with rfl | hchar
    · decide
    · obtain ⟨hblank, hplain, -⟩ := isAtomChar_iff.1 hchar
      refine ⟨hblank, ?_⟩
      rw [isParen, Bool.or_eq_false_iff]
      refine ⟨beq_false_of_ne ?_, beq_false_of_ne ?_⟩ <;> rintro rfl <;> exact hplain (by decide)
  notOperator := hop

/-- The messages that carry a flag. -/
def carrying (flag : String) (kept : List Kept) : List Kept := kept.filter fun k => flag ∈ k.flags

theorem admitted_tag (flag : String) (kept : List Kept) :
    admitted (some (.tag flag)) kept = carrying flag kept := by
  simp [admitted, carrying, Admits, Expr.Satisfied]

/-! ## §2. Counting. -/

section

variable {sentFolder : String} {found : Directory.Request → Directory.Outcome → Prop}
  {site : Site} {ss : Session} {flag : String}

/-- The server finds the messages that carry the flag. -/
theorem returns_countFlag {folder : String} (hflag : isFlag flag = true)
    (hnew : ss.selected = none) :
    Returns (obliging sentFolder found) (countFlag folder flag) (fun n _ t =>
      n = (carrying flag (site.folders folder)).length ∧ t.folders = site.folders) ss site := by
  rw [countFlag, checkFlag_accepted hflag, pure_bind]
  refine Returns.bind (returns_select hnew) fun _ ss₁ s₁ h₁ => ?_
  obtain ⟨rfl, -⟩ := h₁
  refine Returns.bind (returns_search rfl) fun uids ss₂ s₂ h₂ => ?_
  obtain ⟨rfl, rfl, -, hperm⟩ := h₂
  refine Returns.pure ⟨?_, rfl⟩
  rw [hperm.length_eq, List.length_map]
  simp only [Kept.meets_criterionOf]
  rfl

/-- **A flag is counted** in the folder that a name stands for. -/
theorem yields_count {s : Service} {email name : String} {m : Mailbox}
    (hm : Registered found s.directory email m) (hflag : isFlag flag = true) :
    Yields (obliging sentFolder found) (s.count email name flag) (fun answer t =>
      answer = (folderOf sentFolder name,
        (carrying flag (site.folders (folderOf sentFolder name))).length) ∧
      t.folders = site.folders) site := by
  unfold count
  refine yields_inMailbox (f := fun resolved => do
    return (resolved, ← countFlag resolved flag)) hm fun ss s' hnew _ hfolders => ?_
  refine Returns.bind (returns_countFlag hflag hnew) fun n _ t h => ?_
  obtain ⟨rfl, ht⟩ := h
  rw [hfolders]
  exact Returns.pure ⟨rfl, ht.trans hfolders⟩

end

/-! ## §3. Filtering. -/

/-- All pages show as many messages as the filter admits. -/
theorem Everything.length_eq {p : Int} {kept : List Kept} {filter : Option Expr}
    {shown : List Message} (h : Everything p kept filter shown)
    (hnodup : (kept.map (·.uid)).Nodup) : shown.length = (admitted filter kept).length := by
  have hadmitted : ((admitted filter kept).map (·.uid)).Nodup :=
    hnodup.sublist (List.filter_sublist.map _)
  -- Both are known by their UIDs, of which neither has one twice.
  have hsame : ∀ u, u ∈ shown.map (·.uid) ↔ u ∈ (admitted filter kept).map (·.uid) := by
    intro u
    simp only [List.mem_map]
    constructor
    · rintro ⟨m, hm, rfl⟩
      obtain ⟨k, hk, hkm⟩ := h.truthful m hm
      exact ⟨k, hk, hkm.uid_eq.symm⟩
    · rintro ⟨k, hk, rfl⟩
      obtain ⟨m, hm, hkm⟩ := h.whole k hk
      exact ⟨m, hm, hkm.uid_eq⟩
  have hperm := (List.perm_ext_iff_of_nodup h.nodup hadmitted).2 hsame
  have hlength := hperm.length_eq
  rwa [List.length_map, List.length_map] at hlength

/-- **Counting a flag and filtering by it agree.**  On an obliging server, for a flag that
is let through, has no blanks in it and is no operator, and for every size of a page: the
number that is counted is the number of messages on all pages that the flag, as a filter,
leaves; it is that of the messages of the folder that carry the flag. -/
theorem count_agrees (s : Service) (email name flag : String) (limit : Option Int)
    (hflag : isFlag flag = true) (hsolid : ∀ c ∈ flag.toList, isBlank c = false)
    (hop : ∀ op ∈ operators, isWord op flag = false) {sentFolder : String}
    {found : Directory.Request → Directory.Outcome → Prop} {m : Mailbox} {site site' : Site}
    (hm : Registered found s.directory email m)
    (h : Readable s.transport.previewLength (site.folders (folderOf sentFolder name)))
    (hsame : site'.folders = site.folders) {tr tr' : List Event}
    {x : Except Failure (String × Nat)} {y : Except Failure (List Page)} {t t' : Site}
    (hcount : Dialogue.Ends (obliging sentFolder found) (s.count email name flag).run site tr x t)
    (hpages : Dialogue.Ends (obliging sentFolder found)
      (s.allPages email name limit (some flag)).run site' tr' y t') :
    ∃ n pages, x = .ok (folderOf sentFolder name, n) ∧ y = .ok pages ∧
      (pages.map (·.messages.length)).sum = n ∧
      n = (carrying flag (site.folders (folderOf sentFolder name))).length := by
  have hname := isTagName_of_flag (isOneWord_of_solid hflag hsolid) hop
  obtain ⟨answer, hx, hanswer, -⟩ := (yields_count hm hflag).ends hcount
  rw [← hsame] at h
  obtain ⟨pages, hy, heverything⟩ := (yields_allPages hm (filterOf_tag hname) h).ends hpages
  have hshown := heverything.length_eq h.distinct
  rw [admitted_tag, List.length_flatMap, hsame] at hshown
  exact ⟨_, pages, by rw [hx, hanswer], hy, hshown, rfl⟩

namespace Sample

/-- The messages of the inbox with a flag are counted. -/
def counting : Dialogue (Except Failure (String × Nat)) :=
  (reader.count "me@x.io" "inbox" "beta").run

/-- All pages of the inbox are read, with the flag as the filter. -/
def filtering : Dialogue (Except Failure (List Page)) :=
  (reader.allPages "me@x.io" "inbox" (some 2) (some "beta")).run

end Sample

open Sample in
/-- A letter that carries the flag is counted, and it is on the one page that there is. -/
theorem count_agrees_sample : ∃ pages,
    (counting.run clerk.answer (shelf [letter 5 {"beta"}])).1 = .ok (inbox, 1) ∧
      (filtering.run clerk.answer (shelf [letter 5 {"beta"}])).1 = .ok pages ∧
      (pages.map (·.messages.length)).sum = 1 := by
  obtain ⟨m, hm⟩ := registered_supply
  have hinbox : folderOf clerk.sent "inbox" = inbox := by decide
  have hreadable : Readable 200 ((shelf [letter 5 {"beta"}]).folders inbox) :=
    ⟨by decide, by decide, by decide +kernel⟩
  have hcarrying : (carrying "beta" [letter 5 {"beta"}]).length = 1 := by decide
  have hall : ("beta".toList.all fun c => !isBlank c) = true := by decide
  have hsolid : ∀ c ∈ "beta".toList, isBlank c = false := by
    intro c hc
    rw [← Bool.not_eq_true']
    exact List.all_eq_true.1 hall c hc
  have hcounting : (counting.trace clerk.answer (shelf [letter 5 {"beta"}])).all isGranted
      = true := by
    decide +kernel
  have hfiltering : (filtering.trace clerk.answer (shelf [letter 5 {"beta"}])).all isGranted
      = true := by
    -- Parsing does not unfold in the kernel, so what the filter is has to be said.
    unfold filtering allPages messages
    rw [filterOf_beta]
    decide +kernel
  obtain ⟨n, pages, hx, hy, hsum, hn⟩ := count_agrees reader "me@x.io" "inbox" "beta" (some 2)
    (by decide) hsolid (by decide) hm (hinbox.symm ▸ hreadable) rfl
    (clerk.ends_obliging hcounting) (clerk.ends_obliging hfiltering)
  rw [hinbox] at hx hn
  obtain rfl : n = 1 := hn.trans hcarrying
  exact ⟨pages, hx, hy, hsum⟩

end Mailroom.Service
