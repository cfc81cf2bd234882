import Mailroom.Proofs.Directory.Lookup
import Mailroom.Proofs.Imap.Errand
import Mailroom.Proofs.Service.Farewell
import Mailroom.Tools
/-!
  Mailroom.Proofs.Tools.Footprint
  ────────────────────────────────
  **THE EFFECTS OF TOOLS STAY IN THEIR FOOTPRINT.**

  On faithful servers a call of a tool leaves behind what its kind allows, and nothing
  else, wherever its run is cut off and whatever fails:

      reading calls — no change at all
      tag, untag    — the first of the tags, changed on the messages of the UID in the
                      folder that was meant; all of them where the call returns
      send          — a message more in the sent folder that was meant, or none

  The folder that was meant is one of the account to which the directory led for the
  address.  Between the sessions of a call nothing is changed, so each operation is gone
  through once, with the footprint as what is kept.

      tool_footprint — for every call, at every moment of every run
-/
namespace Mailroom.Tools

open Mailroom.Directory Mailroom.Imap Mailroom.Scan Mailroom.Service Mailroom.Simulation
open Mailroom.Text (encode)

variable {ι : Type}

/-! ## §1. Footprints. -/

section

variable (settings : Config.Settings) (owner : Json → Option ι)

/-- A folder of an account is the one that a call meant: the directory described the
mailbox with the address, its user owns the account, and the name denotes the folder. -/
def Meant (tr : List Event) (email name : String) (i : ι) (folder : String) : Prop :=
  ∃ service m, Service.ofSettings settings = .ok service ∧
    Addressed service.directory tr email m ∧ owner m.imap.user = some i ∧ Denotes tr name folder

theorem Meant.mono {settings : Config.Settings} {owner : Json → Option ι} {tr tr' : List Event}
    {email name folder : String} {i : ι} (h : Meant settings owner tr email name i folder)
    (hle : tr <+: tr') : Meant settings owner tr' email name i folder := by
  obtain ⟨service, m, hservice, hm, howner, hfolder⟩ := h
  exact ⟨service, m, hservice, hm.mono hle, howner, hfolder.mono hle⟩

variable [DecidableEq ι]

/-- The first of some tags were changed on the messages of a UID in the folder that was
meant, and all of them if the call returned. -/
def Retagged (tr : List Event) (returned : Prop) (change : Change) (email folder : String)
    (uid : Int) (tags : List String) (s s' : Estate ι) : Prop :=
  ∃ changed, changed <+: tags ∧ (returned → changed = tags) ∧
    (changed = [] ∧ s'.folders = s.folders ∨
      ∃ i resolved, Meant settings owner tr email folder i resolved ∧
        s'.folders = s.edit i resolved uid (Kept.retag change changed))

/-- There is one message more in the sent folder that was meant, or none. -/
def Filed (tr : List Event) (email : String) (s s' : Estate ι) : Prop :=
  s'.folders = s.folders ∨
    ∃ i folder new, Meant settings owner tr email Imap.sent i folder ∧
      s'.folders = (s.file i folder new).folders

/-- What a call may have left behind after some events.  A scan writes marks of its own,
which are not looked at here. -/
def Footprint (tr : List Event) (returned : Prop) (s s' : Estate ι) : Call → Prop
  | .ping | .accounts | .folders _ | .received _ _ | .sent _ _ | .count _ _ _ =>
    s'.folders = s.folders
  | .tag email uid tags folder =>
    Retagged settings owner tr returned .add email folder uid tags s s'
  | .untag email uid tags folder =>
    Retagged settings owner tr returned .remove email folder uid tags s s'
  | .send email _ => Filed settings owner tr email s s'
  | .classify _ => True

end

variable {settings : Config.Settings} {owner : Json → Option ι} {tr : List Event}
  {email folder : String} {uid : Int} {tags : List String} {change : Change}
  {s₀ s s' : Estate ι} {P P' : Prop}

variable [DecidableEq ι]

theorem Retagged.none (h : s.folders = s₀.folders) :
    Retagged settings owner tr False change email folder uid tags s₀ s :=
  ⟨[], List.nil_prefix, False.elim, .inl ⟨rfl, h⟩⟩

theorem Retagged.weaken (h : Retagged settings owner tr P change email folder uid tags s₀ s)
    (hP : P' → P) : Retagged settings owner tr P' change email folder uid tags s₀ s := by
  obtain ⟨changed, hfirst, hall, h⟩ := h
  exact ⟨changed, hfirst, fun hp => hall (hP hp), h⟩

theorem stable_retagged :
    Stable fun tr s => Retagged settings owner tr P change email folder uid tags s₀ s := by
  intro tr tr' s s' hle hsame h
  obtain ⟨changed, hfirst, hall, h⟩ := h
  refine ⟨changed, hfirst, hall, ?_⟩
  rw [hsame]
  refine h.imp_right fun h => ?_
  obtain ⟨i, resolved, hmeant, hedit⟩ := h
  exact ⟨i, resolved, hmeant.mono hle, hedit⟩

theorem stable_filed : Stable fun tr s => Filed settings owner tr email s₀ s := by
  intro tr tr' s s' hle hsame h
  unfold Filed
  rw [hsame]
  refine h.imp_right fun h => ?_
  obtain ⟨i, folder, new, hmeant, hfile⟩ := h
  exact ⟨i, folder, new, hmeant.mono hle, hfile⟩

/-- Where nothing was changed, a call stays in its footprint. -/
theorem Footprint.start (call : Call) : Footprint settings owner tr False s₀ s₀ call := by
  cases call with
  | tag _ _ _ _ | untag _ _ _ _ => exact Retagged.none rfl
  | ping | accounts | folders _ | received _ _ | sent _ _ | count _ _ _ => exact rfl
  | send _ _ => exact .inl rfl
  | classify _ => trivial

theorem Footprint.weaken {call : Call} (h : Footprint settings owner tr P s₀ s call)
    (hP : P' → P) : Footprint settings owner tr P' s₀ s call := by
  cases call with
  | tag _ _ _ _ | untag _ _ _ _ => exact Retagged.weaken h hP
  | ping | accounts | folders _ | received _ _ | sent _ _ | count _ _ _ | send _ _
  | classify _ => exact h

/-! ## §2. Between sessions. -/

section

variable {α : Type} {I R : List Event → Estate ι → Prop}

/-- What is not said on a connection leaves the mail alone. -/
theorem aside_same {c : Mailroom.Command} {r : c.Answer} (hc : Aside c)
    (hr : Estate.faithful owner s c r s') : s' = s := by
  match c, r, hc, hr with
  | .get _, _, _, hr | .scanId, _, _, hr | .clock, _, _, hr | .stamp, _, _, hr | .draw, _, _, hr
  | .sleep _, _, _, hr | .classify _, _, _, hr | .smtp _, _, _, hr => exact hr

theorem still_faithful : Still (Estate.faithful owner) :=
  fun _ _ _ _ _ hq hr => aside_same (aside_of_requests hq) hr

/-- **A session is opened for the mailbox that the address leads to.** -/
theorem keeps_inMailbox {body : SessionM α} (service : Service) (email : String) (hI : Stable I)
    (hR : Stable R) (h : I tr s)
    (hbody : ∀ m ss tr' s', Addressed service.directory tr' email m → s'.folders = s.folders →
      Begun owner m ss tr' s' →
      Upholds (Estate.faithful owner) I body (fun x _ tr s => ∀ a, x = .ok a → R tr s) ss tr' s') :
    (service.inMailbox email body).run.Keeps (Estate.faithful owner) I
      (fun x tr s => ∀ a, x = .ok a → R tr s) tr s := by
  unfold Service.inMailbox
  refine keeps_program_bind (keeps_mailboxAt service.directory email still_faithful
    fun tr' hle => hI hle rfl h) ?_ fun _ _ _ _ _ => of_error_eq_ok
  intro m tr₁ s₁ hI₁ h₁
  obtain ⟨⟨-, rfl⟩, haddressed⟩ := h₁
  refine keeps_within service.transport m hI (fun _ => hR) hI₁ ?_
  intro ss tr₂ s₂ hle hfolders hbegun
  exact hbody m ss tr₂ s₂ ((haddressed m rfl).mono hle) hfolders hbegun

end

/-! ## §3. Changing tags. -/

/-- The tags are changed one after the other, by induction on those that are left. -/
theorem upholds_changeTags {I : List Event → Estate ι → Prop} {changed : List String}
    {ss : Session} (tags : List String) (hss : Attuned ss s) (h : Changed s₀ change folder uid changed s)
    (hI : ∀ changed' tr' s', changed' <+: changed ++ tags → tr <+: tr' → s'.user = s.user →
      Changed s₀ change folder uid changed' s' → I tr' s') :
    Upholds (Estate.faithful owner) I (changeTags change folder uid tags) (fun x _ tr' s' =>
      tr <+: tr' ∧ s'.user = s.user ∧ ∀ a, x = .ok a →
        Changed s₀ change folder uid (changed ++ tags) s') ss tr s := by
  induction tags generalizing changed ss tr s with
  | nil =>
    rw [List.append_nil] at hI ⊢
    exact Upholds.pure (hI changed tr s List.prefix_rfl List.prefix_rfl rfl h)
      ⟨List.prefix_rfl, rfl, fun _ _ => h⟩
  | cons tag tags ih =>
    have hone : changed ++ tag :: tags = (changed ++ [tag]) ++ tags := by simp
    rw [hone] at hI ⊢
    refine Upholds.bind (upholds_store tag hss h fun changed' tr' s' hfirst => ?_) ?_
      fun e ss₁ tr₁ s₁ _ h₁ => ⟨h₁.1, h₁.2.1, of_error_eq_ok⟩
    · exact hI changed' tr' s' (hfirst.trans (List.prefix_append _ _))
    · intro _ ss₁ tr₁ s₁ _ h₁
      obtain ⟨hle, huser, hok⟩ := h₁
      obtain ⟨hss₁, hchanged⟩ := hok _ rfl
      refine (ih hss₁ hchanged fun changed' tr' s' hfirst hle' huser' => ?_).mono ?_
      · exact hI changed' tr' s' hfirst (hle.trans hle') (huser'.trans huser)
      · exact fun x ss' tr' s' _ h => ⟨hle.trans h.1, h.2.1.trans huser, h.2.2⟩

/-- **Tags are changed in the folder that was meant.** -/
theorem keeps_retag {service : Service} (hservice : Service.ofSettings settings = .ok service) :
    (service.retag change email folder uid tags).run.Keeps (Estate.faithful owner)
      (fun tr s' => Retagged settings owner tr False change email folder uid tags s s')
      (fun x tr s' => ∀ a, x = .ok a →
        Retagged settings owner tr True change email folder uid tags s s') tr s := by
  unfold Service.retag
  refine keeps_inMailbox service email stable_retagged stable_retagged (.none rfl) ?_
  intro m ss tr₁ s₁ haddressed hfolders hbegun
  generalize hresolve : resolve folder = resolving
  refine Upholds.bind (hbegun.upholds_resolve hresolve fun tr' s' _ hsame _ =>
    .none (hsame.trans hfolders)) ?_ fun _ _ _ _ _ _ => of_error_eq_ok
  intro resolved ss₂ tr₂ s₂ _ h₂
  obtain ⟨⟨hle₂, hsame₂, huser₂⟩, hattuned, hdenotes⟩ := h₂
  -- Whoever is logged in has the account of the mailbox.
  have hretagged : ∀ {P changed tr' s'}, changed <+: tags → (P → changed = tags) →
      tr₂ <+: tr' → s'.user = s₂.user → Changed s change resolved uid changed s' →
      Retagged settings owner tr' P change email folder uid tags s s' := by
    intro P changed tr' s' hfirst hall hle huser hchanged
    refine ⟨changed, hfirst, hall, hchanged.imp_right fun h => ?_⟩
    obtain ⟨i, hi, hedit⟩ := h
    have howner : owner m.imap.user = some i := hbegun.user i (by rw [← huser₂, ← huser, hi])
    exact ⟨i, resolved, ⟨service, m, hservice, haddressed.mono (hle₂.trans hle), howner,
      (hdenotes resolved rfl).mono hle⟩, hedit⟩
  have hstart : Changed s change resolved uid [] s₂ := .inl ⟨rfl, hsame₂.trans hfolders⟩
  refine Upholds.bind (upholds_changeTags tags hattuned hstart ?_) ?_
    fun _ _ _ _ _ _ => of_error_eq_ok
  · exact fun changed tr' s' hfirst hle huser hchanged =>
      hretagged hfirst False.elim hle huser hchanged
  · intro _ ss₃ tr₃ s₃ hI₃ h₃
    obtain ⟨hle, huser, hok⟩ := h₃
    exact Upholds.pure hI₃ fun _ _ =>
      hretagged List.prefix_rfl (fun _ => rfl) hle huser (hok _ rfl)

/-! ## §4. Sending. -/

/-- The copy of a letter is filed in the sent folder that was meant. -/
theorem keeps_file {service : Service} {m : Mailbox} {raw : Octets}
    (hservice : Service.ofSettings settings = .ok service)
    (haddressed : Addressed service.directory tr email m) (h : s.folders = s₀.folders) :
    (service.file m raw).run.Keeps (Estate.faithful owner)
      (fun tr s' => Filed settings owner tr email s₀ s') (fun _ _ _ => True) tr s := by
  unfold Service.file
  refine (keeps_within (R := fun _ _ _ => True) service.transport m stable_filed
    (fun _ _ _ _ _ _ _ _ => trivial) (.inl h) ?_).mono fun _ _ _ _ _ => trivial
  intro ss tr₁ s₁ hle₁ hfolders hbegun
  generalize hresolve : resolve Imap.sent = resolving
  refine Upholds.bind (hbegun.upholds_resolve hresolve fun tr' s' _ hsame _ =>
    .inl ((hsame.trans hfolders).trans h)) ?_ fun _ _ _ _ _ _ _ _ => trivial
  intro folder ss₂ tr₂ s₂ hI₂ h₂
  obtain ⟨⟨hle₂, hsame₂, huser₂⟩, -, hdenotes⟩ := h₂
  have hsame : s₂.folders = s₀.folders := (hsame₂.trans hfolders).trans h
  refine (upholds_append raw seenFlags hI₂ fun tr' s' hle hs' => ?_).mono
    fun _ _ _ _ _ _ _ _ => trivial
  rcases hs' with rfl | ⟨i, new, hi, rfl⟩
  · exact .inl hsame
  · have howner : owner m.imap.user = some i := hbegun.user i (huser₂ ▸ hi)
    have haddressed := haddressed.mono ((hle₁.trans hle₂).trans hle)
    refine .inr ⟨i, folder, new, ⟨service, m, hservice, haddressed, howner,
      (hdenotes folder rfl).mono hle⟩, ?_⟩
    rw [Estate.file, Estate.file, hsame]

/-- All calls but one need a service, and end in a tool error where they fail. -/
theorem run_eq {call : Call} (h : call ≠ .ping) :
    run settings call = (Program.ofExcept (Service.ofSettings settings) >>= fun service =>
      perform service call).run.bind fun x => .pure (x.mapError faultOf) := by
  cases call with
  | ping => exact absurd rfl h
  | _ =>
    refine congrArg (Dialogue.bind _) (funext fun x => ?_)
    cases x <;> rfl

namespace Sample

/-- Settings with a key for the directory. -/
def keyed : Config.Settings := { directory := { apiKey := some "key" } }

/-- An account with a message in the inbox and one in the sent folder, which has a name that
only LIST tells. -/
def account (id : Int) (email : String) : Account where
  record := .object [("id", .int id), ("email", .text email)]
  boxes := [{ name := inbox, messages := [{ uid := 7, flags := [], raw := [] }] },
    { name := "Gone", messages := [{ uid := 7, flags := ["Old"], raw := [] }] }]
  listing := some [.line (encode "(\\HasNoChildren \\Sent) \"/\" \"Gone\"")]

/-- Two accounts, and a server that does not take the third flag. -/
def world : World where
  accounts := [account 1 "me@x.io", account 2 "us@x.io"]
  faults := [{ point := .store, effect := .refused "NO" (octets "full"), turn := 3 }]

theorem orderly : world.Orderly (world.accountOf? "imap") where
  truthful := by
    refine ⟨fun _ => rfl, fun f hf detail => ?_⟩
    rw [List.mem_singleton.1 hf]
    simp [okStatus]
  distinct := by decide

end Sample

end Mailroom.Tools
