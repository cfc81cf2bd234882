import Mathlib.Data.List.TakeWhile
import Mailroom.Proofs.Imap.Utterance
import Mailroom.Proofs.Service.Pages
import Mailroom.Proofs.Text.Trim
import Mailroom.Proofs.Tools.Footprint
/-!
  Mailroom.Proofs.Service.Tagging
  ────────────────────────────────
  **A REFUSED TAG ENDS THE CHANGE OF TAGS WHERE IT STANDS.**

  The tags of a list are checked one by one, each when it is its turn.  So a list with a
  refused tag in it is the list up to this tag, and then the failure:

      retag_refused    — the program up to the first refused tag, and the failure
      yields_retag     — with a server that obliges, what changing tags comes to
      first_refused    — what a list with a refused tag in it leaves behind
      tags_half_set    — the tags in front of it stay set

  The mail is as it was before exactly if none of the tags in front of the refused one
  was a change.
-/
namespace Mailroom.Imap

open Mailroom.Scan

/-! ## §1. What is no change. -/

/-- A list of tags changes nothing of a message if none of them does. -/
theorem Kept.retag_eq_self_iff {change : Change} {tags : List String} {k : Kept} :
    Kept.retag change tags k = k ↔ ∀ tag ∈ tags, Kept.change tag change k = k := by
  obtain ⟨uid, flags, raw⟩ := k
  cases change with
  | add => simp [retag, Kept.change, Kept.add, Finset.union_eq_left, Finset.subset_iff]
  | remove => simp [retag, Kept.change, Finset.disjoint_right]

/-- Folders in which some messages are changed are as they were if none of these is. -/
theorem Folders.change_eq_self_iff {fs : Folders} {folder : String} {uid : Int} {f : Kept → Kept} :
    fs.change folder uid f = fs ↔ ∀ k ∈ fs folder, k.uid = uid → f k = k := by
  have hmap : (fs folder).map (fun k => if k.uid = uid then f k else k) = fs folder ↔
      ∀ k ∈ fs folder, k.uid = uid → f k = k := by
    conv_lhs => rw [← List.map_id (fs folder), List.map_map]
    rw [List.map_inj_left]
    refine forall₂_congr fun k _ => ?_
    by_cases hk : k.uid = uid <;> simp [hk]
  rw [← hmap, funext_iff]
  constructor
  · intro h
    have hfolder := h folder
    rwa [Folders.change, if_pos rfl] at hfolder
  · intro h n
    unfold Folders.change
    split
    next hn => rw [hn, h]
    next => rfl

/-! ## §2. Up to a refused tag. -/

/-- A failure at the end of what is done in a session is one behind the session. -/
theorem within_throw {α β : Type} (t : Transport) (m : Directory.Mailbox) (body : SessionM α)
    (f : Failure) :
    t.within m (body >>= fun _ => (throw f : SessionM β)) = t.within m body >>= fun _ => throw f := by
  unfold Transport.within
  simp only [bind_assoc]
  refine bind_congr fun ss => ?_
  rw [SessionM.run_bind]
  -- Whatever the body asks and comes to, the session is left in the same way.
  induction body.run.run ss with
  | ask c next ih => exact congrArg (Dialogue.ask c) (funext ih)
  | pure last =>
    obtain ⟨x, ss'⟩ := last
    cases x with
    | error _ | ok _ =>
      show (ExceptT.lift (close.run.run ss') >>= _ : Program β)
        = ExceptT.lift (close.run.run ss') >>= _
      refine bind_congr fun closed => ?_
      cases closed.1 <;> rfl

end Mailroom.Imap

namespace Mailroom.Service

open Mailroom.Directory Mailroom.Imap Mailroom.Mail Mailroom.Scan Mailroom.Tools

section

variable {change : Change} {email folder bad : String} {uid : Int} {before after tags : List String}

/-- What stands behind a refused tag is not looked at, by induction on what stands in front
of it. -/
theorem changeTags_refused (hbad : isFlag bad = false) :
    changeTags change folder uid (before ++ bad :: after)
      = changeTags change folder uid before >>= fun _ => throw (.flag bad) := by
  induction before with
  | nil =>
    show (store folder uid change bad >>= fun _ => changeTags change folder uid after) = _
    rw [store_refused hbad]
    rfl
  | cons tag before ih =>
    show (store folder uid change tag >>= fun _ =>
      changeTags change folder uid (before ++ bad :: after)) = _
    rw [ih, changeTags, bind_assoc]

/-- **To change a list of tags with a refused one in it is to change those in front of it,
and then to fail.** -/
theorem retag_refused (s : Service) (hbad : isFlag bad = false) :
    s.retag change email folder uid (before ++ bad :: after)
      = s.retag change email folder uid before >>= fun _ => throw (.flag bad) := by
  unfold retag inMailbox
  rw [bind_assoc]
  refine bind_congr fun m => ?_
  rw [← within_throw]
  simp only [changeTags_refused hbad, bind_assoc, pure_bind]
  rfl

end

/-! ## §3. With a server that obliges. -/

section

variable {sentFolder : String} {found : Directory.Request → Directory.Outcome → Prop}
  {site : Site} {ss : Session} {fs : Folders} {change : Change} {folder : String} {uid : Int}

/-- A flag that can be sent is changed in the folder, which stays selected. -/
theorem returns_store {tag : String} (htag : isFlag tag = true) (h : Ready folder false ss site) :
    Returns (obliging sentFolder found) (store folder uid change tag) (fun _ ss' s' =>
      Ready folder false ss' s' ∧
        s'.folders = site.folders.change folder uid (Kept.change tag change)) ss site := by
  rw [store, checkFlag_accepted htag, pure_bind]
  refine Returns.bind (returns_enter h) fun _ ss₁ s₁ h₁ => ?_
  obtain ⟨rfl, rfl⟩ := h₁
  refine Returns.command_bind fun r s' hr => ?_
  obtain ⟨⟨-, hserved⟩, items, ha⟩ := hr
  refine ⟨items, ha, ?_⟩
  have hs' : s' = (({ site with selected := some (folder, false) } : Site).flag uid change
      tag).note uid change tag := by
    simp only [Regime.Serves, ha] at hserved
    exact hserved.2
  subst hs'
  exact Returns.pure (by cases change <;> exact ⟨.inr ⟨rfl, rfl⟩, rfl⟩)

/-- **All tags are changed**, by induction on those that are left; `done` are the others. -/
theorem returns_changeTags {tags : List String} (done : List String)
    (htags : ∀ tag ∈ tags, isFlag tag = true) (h : Ready folder false ss site)
    (hfolders : site.folders = fs.change folder uid (Kept.retag change done)) :
    Returns (obliging sentFolder found) (changeTags change folder uid tags) (fun _ _ s' =>
      s'.folders = fs.change folder uid (Kept.retag change (done ++ tags))) ss site := by
  induction tags generalizing done ss site with
  | nil => exact Returns.pure (by rw [List.append_nil]; exact hfolders)
  | cons tag tags ih =>
    obtain ⟨htag, htags⟩ := List.forall_mem_cons.1 htags
    rw [changeTags]
    refine Returns.bind (returns_store htag h) fun _ ss₁ s₁ h₁ => ?_
    obtain ⟨hready, hchanged⟩ := h₁
    have hdone : s₁.folders = fs.change folder uid (Kept.retag change (done ++ [tag])) := by
      rw [hchanged, hfolders, Folders.change_change _ _ _ fun k => Kept.retag_uid change done k]
      simp only [Kept.change_retag]
    have hrest := ih (done ++ [tag]) htags hready hdone
    rwa [List.append_assoc, List.singleton_append] at hrest

/-- **What changing tags comes to**: each message of the UID is changed by all of them. -/
theorem yields_retag {s : Service} {email name : String} {m : Mailbox} {tags : List String}
    (hm : Registered found s.directory email m) (htags : ∀ tag ∈ tags, isFlag tag = true) :
    Yields (obliging sentFolder found) (s.retag change email name uid tags) (fun _ t =>
      t.folders = site.folders.change (folderOf sentFolder name) uid (Kept.retag change tags))
      site := by
  unfold retag
  refine yields_inMailbox (f := fun resolved => do
    changeTags change resolved uid tags
    return resolved) hm fun ss s' hnew _ hfolders => ?_
  have hnone : s'.folders
      = site.folders.change (folderOf sentFolder name) uid (Kept.retag change []) := by
    rw [Folders.change_id _ _ _ fun k => Kept.retag_nil change k, hfolders]
  refine Returns.bind (returns_changeTags [] htags (.inl hnew) hnone) fun _ _ _ h => ?_
  exact Returns.pure h

end

/-! ## §4. Lists with a refused tag. -/

/-- A list with a refused tag in it is cut in front of the first of them. -/
theorem exists_first_refused {tags : List String} (h : ∃ tag ∈ tags, isFlag tag = false) :
    ∃ bad after, isFlag bad = false ∧ tags = tags.takeWhile isFlag ++ bad :: after := by
  cases hrest : tags.dropWhile isFlag with
  | nil =>
    obtain ⟨tag, htag, hbad⟩ := h
    have hgood := List.dropWhile_eq_nil_iff.1 hrest tag htag
    rw [hbad] at hgood
    cases hgood
  | cons bad after =>
    have hbad := Text.dropWhile_first isFlag tags bad (by rw [hrest]; rfl)
    refine ⟨bad, after, hbad, ?_⟩
    rw [← hrest, List.takeWhile_append_dropWhile]

section

variable {ι : Type} [DecidableEq ι] {settings : Config.Settings} {service : Service}

/-- Tags that are changed in front of a failure are in the footprint of those tags. -/
theorem keeps_retag_throw {owner : Json → Option ι} {change : Change} {email folder : String}
    {uid : Int} {tags : List String} {s : Estate ι} {f : Failure}
    (hservice : Service.ofSettings settings = .ok service) :
    (service.retag change email folder uid tags >>= fun _ =>
        (throw f : Program String)).run.Keeps (Estate.faithful owner)
      (fun tr s' => Retagged settings owner tr False change email folder uid tags s s')
      (fun x _ _ => ∀ a, x ≠ .ok a) [] s :=
  keeps_program_bind (keeps_retag hservice) (fun _ _ _ hI _ => ⟨hI, fun _ => nofun⟩)
    fun _ _ _ _ _ _ => nofun

/-- **What a list with a refused tag in it leaves behind.**  With a server that obliges the
change of tags ends in the failure of the first refused tag, and the tags in front of it
are changed; so the mail is as it was exactly if none of these changes anything.  With any
faithful servers, whatever fails, it never returns, and at every moment no other tags than
these were changed. -/
theorem first_refused (owner : Json → Option ι)
    (hservice : Service.ofSettings settings = .ok service) (change : Change) (email folder : String)
    (uid : Int) {tags : List String} (h : ∃ tag ∈ tags, isFlag tag = false) :
    ∃ bad ∈ tags, isFlag bad = false ∧
      (∀ (sentFolder : String) (found : Directory.Request → Directory.Outcome → Prop) (m : Mailbox)
        (site : Site), Registered found service.directory email m → ∀ tr x t,
        Dialogue.Ends (obliging sentFolder found)
          (service.retag change email folder uid tags).run site tr x t →
        x = .error (.flag bad) ∧
          t.folders = site.folders.change (folderOf sentFolder folder) uid
            (Kept.retag change (tags.takeWhile isFlag)) ∧
          (t.folders = site.folders ↔ ∀ k ∈ site.folders (folderOf sentFolder folder),
            k.uid = uid → ∀ tag ∈ tags.takeWhile isFlag, Kept.change tag change k = k)) ∧
      ∀ (s s' : Estate ι) tr d,
        Dialogue.Reaches (Estate.faithful owner) (service.retag change email folder uid tags).run
          s tr d s' →
        (∀ a, d ≠ .pure (.ok a)) ∧
          Retagged settings owner tr False change email folder uid (tags.takeWhile isFlag) s s' := by
  obtain ⟨bad, after, hbad, hsplit⟩ := exists_first_refused h
  have hgood : ∀ tag ∈ tags.takeWhile isFlag, isFlag tag = true := fun _ => List.mem_takeWhile_imp
  have hprogram : service.retag change email folder uid tags
      = service.retag change email folder uid (tags.takeWhile isFlag)
        >>= fun _ => throw (.flag bad) := by
    conv_lhs => rw [hsplit]
    exact retag_refused service hbad
  rw [hprogram]
  refine ⟨bad, ?_, hbad, ?_, ?_⟩
  · rw [hsplit]
    exact List.mem_append_right _ List.mem_cons_self
  · intro sentFolder found m site hm tr x t hrun
    obtain ⟨hx, _, hfolders⟩ := (yields_retag hm hgood).ends_throw hrun
    refine ⟨hx, hfolders, ?_⟩
    rw [hfolders, Folders.change_eq_self_iff]
    simp only [Kept.retag_eq_self_iff]
  · intro s s' tr d hrun
    have hnow := (keeps_retag_throw hservice).reaches hrun
    rw [List.nil_append] at hnow
    refine ⟨?_, hnow.now⟩
    rintro a rfl
    exact hnow.2 a rfl

end

namespace Sample

open Mailroom.Tools.Sample (keyed orderly world)

/-- The service with a key for the directory and with settings that are used where nothing
is configured. -/
def tagger : Service where
  settings := keyed
  directory := clientOf keyed "key"
  transport := transportOf keyed
  sender := { timeout := keyed.imap.timeout }

/-- Tags of which the second is refused. -/
def halves : List String := ["beta", "two words", "gamma"]

/-- Setting them on a message of the inbox. -/
def setting : Dialogue (Except Failure String) :=
  (tagger.retag .add "me@x.io" "inbox" 7 halves).run

theorem refused_halves : ∃ tag ∈ halves, isFlag tag = false := by decide

end Sample

open Sample Mailroom.Tools.Sample in
/-- A server that obliges is left with the first tag set and nothing else; and in a world
with two accounts no other tag was set either. -/
theorem first_refused_sample :
    (∃ tr t, Dialogue.Ends (obliging "Sent" supply) setting (shelf [letter 7 ∅]) tr
        (.error (.flag "two words")) t ∧ t.folders inbox = [letter 7 {"beta"}]) ∧
      Retagged keyed (world.accountOf? "imap") (setting.trace Simulation.World.answer world) False
        .add "me@x.io" "inbox" 7 ["beta"] world.estate
        (setting.run Simulation.World.answer world).2.estate := by
  have honly : ∀ tag ∈ halves, isFlag tag = false → tag = "two words" := by decide
  have hfront : halves.takeWhile isFlag = ["beta"] := by decide
  have hinbox : folderOf "Sent" "inbox" = inbox := by decide
  obtain ⟨m, hm⟩ := registered_record (c := tagger.directory) (by decide)
  have hservice : Service.ofSettings keyed = .ok tagger := rfl
  obtain ⟨bad, hmem, hbad, hobliging, hfaithful⟩ := first_refused (world.accountOf? "imap")
    hservice .add "me@x.io" "inbox" 7 refused_halves
  obtain rfl := honly bad hmem hbad
  rw [hfront] at hobliging hfaithful
  constructor
  · have hgranted : (setting.trace clerk.answer (shelf [letter 7 ∅])).all isGranted = true := by
      decide +kernel
    have hrun := clerk.ends_obliging hgranted
    obtain ⟨hx, hfolders, -⟩ := hobliging "Sent" supply m _ hm _ _ _ hrun
    rw [hx] at hrun
    refine ⟨_, _, hrun, ?_⟩
    rw [hfolders, hinbox]
    decide
  · have hrun := Dialogue.ends_view Simulation.World.estate _
      (fun c _ h => Simulation.World.faithful_answer h c) setting orderly
    exact (hfaithful _ _ _ _ hrun).2

open Sample Mailroom.Tools.Sample in
/-- A list with a refused tag in it may change the mail: the tags in front of it stay set. -/
theorem tags_half_set :
    ¬ ∀ tags : List String, (∃ tag ∈ tags, isFlag tag = false) →
      ((tagger.retag .add "me@x.io" "inbox" 7 tags).run.run Simulation.World.answer
        world).2.estate.folders = world.estate.folders := by
  intro h
  have hsame := congrFun (congrFun (h halves refused_halves) 0) inbox
  revert hsame
  decide +kernel

end Mailroom.Service
