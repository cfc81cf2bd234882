import Mailroom.Proofs.Imap.Faithful
import Mailroom.Proofs.Imap.Vocabulary
import Mailroom.Proofs.Scan.Conduct
/-!
  Mailroom.Proofs.Imap.Errand
  ────────────────────────────────
  **WHAT A SESSION DOES TO THE MAIL.**

  A session is opened for a mailbox, does an errand in its folders and is left.  On
  faithful servers only two things change messages on the way: a flag is changed in the
  folder that was selected for it, or a message is filed in the folder that is named.
  Reading changes nothing, and neither does opening or leaving a connection.

      keeps_within          — around the errand the mail stays as it is
      Begun.upholds_resolve — the folder of the errand is the one that its name denotes
      upholds_store         — a flag is changed there, once at most
      upholds_append        — one message is filed at most
-/
namespace Mailroom.Imap

open Mailroom.Scan Mailroom.Simulation Mailroom.Text
open Mailroom.Directory (Mailbox)

/-! ## §1. The folder that a name denotes. -/

/-- A name denotes a folder, as a run was told: the inbox, the folder to which LIST led, or
the folder with that name. -/
inductive Denotes (tr : List Event) (name : String) : String → Prop
  | inbox (named : isWord inbox (trim name) = true) : Denotes tr name inbox
  | sent {folder : String} (other : isWord inbox (trim name) = false)
      (named : isWord sent (trim name) = true) (led : Resolves tr folder) : Denotes tr name folder
  | itself (other : isWord inbox (trim name) = false) (other' : isWord sent (trim name) = false) :
      Denotes tr name name

theorem Denotes.mono {tr tr' : List Event} {name folder : String} (h : Denotes tr name folder)
    (hle : tr <+: tr') : Denotes tr' name folder := by
  cases h with
  | inbox named => exact .inbox named
  | sent other named led => exact .sent other named (led.mono hle)
  | itself other other' => exact .itself other other'

section

variable {σ : Type} {law : Law σ} {ss : Session} {tr : List Event} {s : σ}

theorem upholds_findSentFolder
    (hhost : ∃ ep r, (⟨.connect ep, r⟩ : Event) ∈ tr ∧ ep.host = ss.host) :
    Upholds law (fun _ _ => True) findSentFolder (fun x ss' tr' _ => ss' = ss ∧
      ∀ folder, x = .ok folder → Resolves tr' folder) ss tr s := by
  obtain ⟨ep, r', hconnect, hhost⟩ := hhost
  refine Upholds.findSentFolder trivial (fun _ _ _ => trivial) ?_ fun _ _ _ _ _ => ⟨rfl, of_error_eq_ok⟩
  intro r s' name _ hname
  refine ⟨rfl, fun folder hfolder => ?_⟩
  cases hfolder
  exact ⟨ep, r', r, List.mem_append_left _ hconnect, by simp, hhost ▸ hname⟩

/-- In a session that knows no sent folder a name is resolved to the folder that it denotes.
The program has a name of its own, as otherwise Lean tries to run it on a name that is open. -/
theorem upholds_resolve {name : String} {prog : SessionM String} (hprog : resolve name = prog)
    (hhost : ∃ ep r, (⟨.connect ep, r⟩ : Event) ∈ tr ∧ ep.host = ss.host)
    (hnew : ss.sentFolder = none) :
    Upholds law (fun _ _ => True) prog (fun x ss' tr' _ =>
      ss'.selected = ss.selected ∧ ∀ folder, x = .ok folder → Denotes tr' name folder) ss tr s := by
  subst hprog
  unfold resolve
  dsimp only
  cases hinbox : isWord inbox (trim name) with
  | true =>
    rw [if_pos rfl]
    refine Upholds.pure trivial ⟨rfl, fun folder hfolder => ?_⟩
    cases hfolder
    exact .inbox hinbox
  | false =>
    rw [if_neg Bool.false_ne_true]
    cases hsent : isWord sent (trim name) with
    | true =>
      rw [if_pos rfl]
      refine Upholds.session_bind ?_
      rw [hnew]
      refine Upholds.bind (upholds_findSentFolder hhost) ?_ fun e ss' tr' s' _ h => ?_
      · intro folder ss' tr' s' _ h
        obtain ⟨rfl, hresolves⟩ := h
        refine Upholds.update_bind (Upholds.pure trivial ⟨rfl, fun folder' hfolder => ?_⟩)
        cases hfolder
        exact .sent hinbox hsent (hresolves folder rfl)
      · rw [h.1]
        exact ⟨rfl, of_error_eq_ok⟩
    | false =>
      rw [if_neg Bool.false_ne_true]
      refine Upholds.pure trivial ⟨rfl, fun folder hfolder => ?_⟩
      cases hfolder
      exact .itself hinbox hsent

end

/-! ## §2. Opening and leaving. -/

section

variable {ι : Type} [DecidableEq ι] {owner : Json → Option ι} {I : List Event → Estate ι → Prop}
  {tr : List Event} {s : Estate ι} {m : Mailbox} {ss : Session}

/-- What holds of events and of the mail goes on to hold while nothing changes the mail. -/
def Stable (I : List Event → Estate ι → Prop) : Prop :=
  ∀ {tr tr' s s'}, tr <+: tr' → s'.folders = s.folders → I tr s → I tr' s'

/-- A session for a mailbox that was just started: nothing is selected, no folder is known,
and nobody else is logged in. -/
structure Begun (owner : Json → Option ι) (m : Mailbox) (ss : Session) (tr : List Event)
    (s : Estate ι) : Prop where
  host : ∃ ep r, (⟨.connect ep, r⟩ : Event) ∈ tr ∧ ep.host = ss.host
  selected : ss.selected = none
  sentFolder : ss.sentFolder = none
  user : ∀ i, s.user = some i → owner m.imap.user = some i

theorem keeps_connect_estate (e : Endpoint) (hI : Stable I) (h : I tr s) :
    (connect e).run.Keeps (Estate.faithful owner) I (fun x tr' s' =>
      (tr <+: tr' ∧ s'.folders = s.folders) ∧ ∀ a, x = .ok a →
        s'.user = none ∧ ∃ r, (⟨.connect e, r⟩ : Event) ∈ tr') tr s := by
  unfold connect
  refine keeps_ask_bind h fun r s₁ hr => ?_
  have hle₁ : tr <+: tr ++ [⟨.connect e, r⟩] := List.prefix_append _ _
  have hs₁ : s₁ = { s with user := none, selected := none } := hr
  have hfolders₁ : s₁.folders = s.folders := by rw [hs₁]
  have huser₁ : s₁.user = none := by rw [hs₁]
  have hI₁ := hI hle₁ hfolders₁ h
  have hev : (⟨.connect e, r⟩ : Event) ∈ tr ++ [⟨.connect e, r⟩] := by simp
  rcases r with fault | capabilities
  · exact ⟨hI₁, ⟨hle₁, hfolders₁⟩, of_error_eq_ok⟩
  · dsimp only
    split
    · refine keeps_ask_bind hI₁ fun r s₂ hr => ?_
      obtain rfl : s₂ = s₁ := hr
      have hle₂ := List.prefix_append (tr ++ [⟨.connect e, .ok capabilities⟩])
        [(⟨.imap .startTls, r⟩ : Event)]
      have hI₂ := hI hle₂ rfl hI₁
      rcases r with fault | r
      · exact ⟨hI₂, ⟨hle₁.trans hle₂, hfolders₁⟩, of_error_eq_ok⟩
      · exact ⟨hI₂, ⟨hle₁.trans hle₂, hfolders₁⟩, fun _ _ => ⟨huser₁, _, hle₂.mem hev⟩⟩
    · exact ⟨hI₁, ⟨hle₁, hfolders₁⟩, fun _ _ => ⟨huser₁, _, hev⟩⟩

theorem keeps_login_estate (e : Endpoint) (hI : Stable I) (h : I tr s) (hnobody : s.user = none) :
    (login m e).run.Keeps (Estate.faithful owner) I (fun _ tr' s' =>
      (tr <+: tr' ∧ s'.folders = s.folders) ∧ ∀ i, s'.user = some i → owner m.imap.user = some i)
      tr s := by
  unfold login
  refine keeps_ask_bind h fun r s₁ hr => ?_
  have hle₁ := List.prefix_append tr [(⟨.imap (.login m.imap.user m.imap.password), r⟩ : Event)]
  obtain ⟨hfolders₁, -, huser₁⟩ := hr
  have hI₁ := hI hle₁ hfolders₁ h
  have hentered : ∀ i, s₁.user = some i → owner m.imap.user = some i := by
    intro i hi
    rcases huser₁ with huser | huser
    · rw [huser, hnobody] at hi
      cases hi
    · exact huser ▸ hi
  rcases r with (reason | reason) | r
  · -- Who is not let in logs out all the same.
    refine keeps_ask_bind hI₁ fun r s₂ hr => ?_
    obtain rfl : s₂ = s₁ := hr
    have hle₂ := hle₁.trans (List.prefix_append _ [(⟨.imap .logout, r⟩ : Event)])
    have hI₂ := hI hle₂ hfolders₁ h
    rcases r with (reason | reason) | r <;> exact ⟨hI₂, ⟨hle₂, hfolders₁⟩, hentered⟩
  · exact ⟨hI₁, ⟨hle₁, hfolders₁⟩, hentered⟩
  · exact ⟨hI₁, ⟨hle₁, hfolders₁⟩, hentered⟩

/-- A session that is started has begun for its mailbox. -/
theorem keeps_start_estate (t : Transport) (m : Mailbox) (hI : Stable I) (h : I tr s) :
    (t.start m).run.Keeps (Estate.faithful owner) I (fun x tr' s' =>
      (tr <+: tr' ∧ s'.folders = s.folders) ∧ ∀ ss, x = .ok ss → Begun owner m ss tr' s') tr s := by
  unfold Transport.start
  refine keeps_program_bind (keeps_connect_estate _ hI h) ?_ fun f tr s _ h => ⟨h.1, of_error_eq_ok⟩
  intro _ tr₁ s₁ hI₁ h₁
  obtain ⟨⟨hle₁, hfolders₁⟩, hnew⟩ := h₁
  obtain ⟨hnobody, r, hev⟩ := hnew _ rfl
  refine keeps_program_bind (keeps_login_estate _ hI hI₁ hnobody) ?_ fun f tr s _ h =>
    ⟨⟨hle₁.trans h.1.1, h.1.2.trans hfolders₁⟩, of_error_eq_ok⟩
  intro _ tr₂ s₂ hI₂ h₂
  obtain ⟨⟨hle₂, hfolders₂⟩, hentered⟩ := h₂
  refine ⟨hI₂, ⟨hle₁.trans hle₂, hfolders₂.trans hfolders₁⟩, fun ss hss => ?_⟩
  cases hss
  exact ⟨⟨_, r, hle₂.mem hev, rfl⟩, rfl, rfl, hentered⟩

theorem upholds_close_estate (hI : Stable I) (h : I tr s) :
    Upholds (Estate.faithful owner) I close (fun _ _ tr' s' => tr <+: tr' ∧ s' = s) ss tr s := by
  unfold close
  refine Upholds.ask_bind h fun r s₁ hr => Upholds.update_bind ?_
  obtain rfl : s₁ = s := hr
  have hle := List.prefix_append tr [(⟨.imap .logout, r⟩ : Event)]
  have hI₁ := hI hle rfl h
  rcases r with (reason | reason) | r
  · exact Upholds.pure hI₁ ⟨hle, rfl⟩
  · exact Upholds.throw hI₁ ⟨hle, rfl⟩
  · exact Upholds.pure hI₁ ⟨hle, rfl⟩

/-- **Around what is done in a session the mail stays as it is**, and what the session
returns is what was returned in it. -/
theorem keeps_within {α : Type} {R : α → List Event → Estate ι → Prop} (t : Transport)
    (m : Mailbox) {body : SessionM α} (hI : Stable I) (hR : ∀ a, Stable (R a)) (h : I tr s)
    (hbody : ∀ ss tr' s', tr <+: tr' → s'.folders = s.folders → Begun owner m ss tr' s' →
      Upholds (Estate.faithful owner) I body (fun x _ tr s => ∀ a, x = .ok a → R a tr s)
        ss tr' s') :
    (t.within m body).run.Keeps (Estate.faithful owner) I
      (fun x tr' s' => ∀ a, x = .ok a → R a tr' s') tr s := by
  unfold Transport.within
  refine keeps_program_bind (keeps_start_estate t m hI h) ?_ fun f tr s _ h => of_error_eq_ok
  intro ss tr₁ s₁ hI₁ h₁
  obtain ⟨⟨hle₁, hfolders₁⟩, hbegun⟩ := h₁
  refine keeps_lift_bind (Dialogue.Keeps.mono (hbody ss tr₁ s₁ hle₁ hfolders₁ (hbegun ss rfl)) ?_)
  intro last tr₂ s₂ hI₂ hx
  obtain ⟨x, ss₂⟩ := last
  refine keeps_lift_bind (Dialogue.Keeps.mono (upholds_close_estate hI hI₂) ?_)
  intro last tr₃ s₃ hI₃ h₃
  obtain ⟨closed | _, ss₃⟩ := last
  · exact ⟨hI₃, of_error_eq_ok⟩
  · obtain ⟨hle₃, rfl⟩ := h₃
    cases x with
    | error f => exact ⟨hI₃, of_error_eq_ok⟩
    | ok a =>
      refine ⟨hI₃, fun b hb => ?_⟩
      cases hb
      exact hR a hle₃ rfl (hx a rfl)

/-! ## §3. Reading. -/

/-- Reading changes neither the mail nor who is logged in. -/
theorem reading_same {c : Mailroom.Command} {r : c.Answer} {s' : Estate ι} (hc : Reading c)
    (hr : Estate.faithful owner s c r s') : s'.folders = s.folders ∧ s'.user = s.user := by
  match c, r, hc, hr with
  | .imap (.select _ _), _, _, hr => exact ⟨hr.1, hr.2.1⟩
  | .imap .list, _, _, hr | .imap (.search _), _, _, hr | .imap (.fetch _), _, _, hr =>
    cases hr
    exact ⟨rfl, rfl⟩

/-- What is known of a program that only reads holds while the mail stays as it is. -/
theorem upholds_reading {α : Type} {prog : SessionM α}
    {Q : Except Failure α → Session → List Event → Estate ι → Prop} (hasks : Asks Reading prog)
    (h : Upholds (Estate.faithful owner) (fun _ _ => True) prog Q ss tr s)
    (hI : ∀ tr' s', tr <+: tr' → s'.folders = s.folders → s'.user = s.user → I tr' s') :
    Upholds (Estate.faithful owner) I prog (fun x ss' tr' s' => Q x ss' tr' s' ∧
      tr <+: tr' ∧ s'.folders = s.folders ∧ s'.user = s.user) ss tr s := by
  have hstep : ∀ tr₁ s₁ c r s₂, Reading c → Estate.faithful owner s₁ c r s₂ →
      tr <+: tr₁ ∧ s₁.folders = s.folders ∧ s₁.user = s.user →
      tr <+: tr₁ ++ [⟨c, r⟩] ∧ s₂.folders = s.folders ∧ s₂.user = s.user := by
    intro tr₁ s₁ c r s₂ hc hr h
    obtain ⟨hfolders, huser⟩ := reading_same hc hr
    exact ⟨h.1.trans (List.prefix_append _ _), hfolders.trans h.2.1, huser.trans h.2.2⟩
  have hboth := Dialogue.Keeps.posed_along h (hasks.poses ss) hstep ⟨List.prefix_rfl, rfl, rfl⟩
  exact hboth.weaken fun tr' s' h => hI tr' s' h.2.1 h.2.2.1 h.2.2.2

/-- What is selected in a session is selected on its connection. -/
def Attuned (ss : Session) (s : Estate ι) : Prop :=
  ∀ n readonly, ss.selected = some (n, readonly) → s.selected = some n

/-- The folder of an errand is the one that its name denotes, and looking for it changes
nothing. -/
theorem Begun.upholds_resolve (h : Begun owner m ss tr s) {name : String}
    {prog : SessionM String} (hprog : resolve name = prog)
    (hI : ∀ tr' s', tr <+: tr' → s'.folders = s.folders → s'.user = s.user → I tr' s') :
    Upholds (Estate.faithful owner) I prog (fun x ss' tr' s' =>
      (tr <+: tr' ∧ s'.folders = s.folders ∧ s'.user = s.user) ∧ Attuned ss' s' ∧
        ∀ folder, x = .ok folder → Denotes tr' name folder) ss tr s := by
  refine Upholds.mono (upholds_reading (hprog ▸ Asks.resolve name)
    (Imap.upholds_resolve hprog h.host h.sentFolder) hI) ?_
  intro x ss' tr' s' _ hx
  obtain ⟨⟨hselected, hdenotes⟩, hsame⟩ := hx
  refine ⟨hsame, fun n readonly hn => ?_, hdenotes⟩
  rw [hselected, h.selected] at hn
  cases hn

/-! ## §4. Flags. -/

/-- The mail of an estate with the messages of a UID changed, in a folder of an account. -/
def Estate.edit (s : Estate ι) (i : ι) (folder : String) (uid : Int) (f : Kept → Kept) :
    ι → Folders :=
  Function.update s.folders i ((s.folders i).change folder uid f)

namespace Estate

theorem flag_eq {i : ι} {n : String} (hi : s.user = some i) (hn : s.selected = some n)
    (uid : Int) (change : Change) (flag : String) :
    s.flag uid change flag = { s with folders := s.edit i n uid (Kept.change flag change) } := by
  simp only [Estate.flag, hi, hn, edit]

theorem edit_id {i : ι} {n : String} {uid : Int} {f : Kept → Kept} (hf : ∀ k, f k = k) :
    s.edit i n uid f = s.folders := by
  rw [edit, Folders.change_id _ _ _ hf, Function.update_eq_self]

theorem edit_edit {s' : Estate ι} {i : ι} {n : String} {uid : Int} {f g : Kept → Kept}
    (hf : ∀ k, (f k).uid = k.uid) (h : s'.folders = s.edit i n uid f) :
    s'.edit i n uid g = s.edit i n uid fun k => g (f k) := by
  unfold edit at h ⊢
  rw [h, Function.update_self, Folders.change_change _ _ _ hf, Function.update_idem]

end Estate

/-- Some flags were changed, one after the other, on the messages of a UID in a folder of the
account that is logged in; nothing else was. -/
def Changed (s₀ : Estate ι) (change : Change) (folder : String) (uid : Int)
    (flags : List String) (s : Estate ι) : Prop :=
  flags = [] ∧ s.folders = s₀.folders ∨
    ∃ i, s.user = some i ∧ s.folders = s₀.edit i folder uid (Kept.retag change flags)

variable {s₀ s' : Estate ι} {change : Change} {folder : String} {uid : Int}
  {flags : List String}

/-- Where somebody is logged in, it is in their account. -/
theorem Changed.folders (h : Changed s₀ change folder uid flags s) {i : ι}
    (hi : s.user = some i) : s.folders = s₀.edit i folder uid (Kept.retag change flags) := by
  rcases h with ⟨rfl, h⟩ | ⟨j, hj, h⟩
  · rw [h, Estate.edit_id (Kept.retag_nil change)]
  · rw [hi] at hj
    cases hj
    exact h

theorem Changed.congr (h : Changed s₀ change folder uid flags s) (hfolders : s'.folders = s.folders)
    (huser : s'.user = s.user) : Changed s₀ change folder uid flags s' := by
  unfold Changed
  rw [hfolders, huser]
  exact h

/-- One more flag is changed. -/
theorem Changed.step (h : Changed s₀ change folder uid flags s) (flag : String) {i : ι}
    (hi : s.user = some i) (hn : s.selected = some folder) :
    Changed s₀ change folder uid (flags ++ [flag]) (s.flag uid change flag) := by
  have hmore : (fun k => Kept.change flag change (Kept.retag change flags k))
      = Kept.retag change (flags ++ [flag]) := funext (Kept.change_retag change flags flag)
  rw [Estate.flag_eq hi hn]
  refine .inr ⟨i, hi, ?_⟩
  rw [← hmore, ← Estate.edit_edit (Kept.retag_uid change flags) (h.folders hi)]

theorem upholds_select {readonly : Bool} (hss : Attuned ss s)
    (hI : ∀ tr' s', tr <+: tr' → s'.folders = s.folders → s'.user = s.user → I tr' s') :
    Upholds (Estate.faithful owner) I (select folder readonly) (fun x ss' tr' s' =>
      tr <+: tr' ∧ s'.folders = s.folders ∧ s'.user = s.user ∧
        ∀ a, x = .ok a → s'.selected = some folder ∧ Attuned ss' s') ss tr s := by
  have hnow := hI tr s List.prefix_rfl rfl rfl
  unfold select
  refine Upholds.session_bind ?_
  split
  next h =>
    have hselected := hss folder readonly (by simpa using h)
    exact Upholds.pure hnow ⟨List.prefix_rfl, rfl, rfl, fun _ _ => ⟨hselected, hss⟩⟩
  next =>
    refine Upholds.command_bind hnow (fun r s₁ items hr ha => ?_) fun r s₁ e hr _ => ?_
    · obtain ⟨hfolders, huser, hselected⟩ := hr
      have hle := List.prefix_append tr
        [(⟨.imap (.select (quotedName folder) readonly), r⟩ : Event)]
      have hselected : s₁.selected = some folder := by
        rw [hselected (by rw [ha]; rfl), unquotedName_quotedName]
      refine Upholds.update (hI _ _ hle hfolders huser) ⟨hle, hfolders, huser, fun _ _ => ?_⟩
      refine ⟨hselected, fun n readonly' hn => ?_⟩
      cases hn
      exact hselected
    · obtain ⟨hfolders, huser, -⟩ := hr
      have hle := List.prefix_append tr
        [(⟨.imap (.select (quotedName folder) readonly), r⟩ : Event)]
      exact ⟨hI _ _ hle hfolders huser, hle, hfolders, huser, of_error_eq_ok⟩

/-- A flag is changed once at most, and it is if the server says so. -/
theorem upholds_store (flag : String) (hss : Attuned ss s)
    (h : Changed s₀ change folder uid flags s)
    (hI : ∀ flags' tr' s', flags' <+: flags ++ [flag] → tr <+: tr' → s'.user = s.user →
      Changed s₀ change folder uid flags' s' → I tr' s') :
    Upholds (Estate.faithful owner) I (store folder uid change flag) (fun x ss' tr' s' =>
      tr <+: tr' ∧ s'.user = s.user ∧ ∀ a, x = .ok a →
        Attuned ss' s' ∧ Changed s₀ change folder uid (flags ++ [flag]) s') ss tr s := by
  have hbefore : ∀ tr' s', tr <+: tr' → s'.folders = s.folders → s'.user = s.user → I tr' s' :=
    fun tr' s' hle hfolders huser =>
      hI flags tr' s' (List.prefix_append _ _) hle huser (h.congr hfolders huser)
  have hnow := hbefore tr s List.prefix_rfl rfl rfl
  unfold store checkFlag
  by_cases hflag : isFlag flag = true
  · rw [if_pos hflag]
    show Upholds _ _ (select folder false >>= _) _ ss tr s
    refine Upholds.bind (upholds_select hss hbefore) ?_ fun e ss₁ tr₁ s₁ _ h₁ =>
      ⟨h₁.1, h₁.2.2.1, of_error_eq_ok⟩
    intro _ ss₁ tr₁ s₁ hI₁ h₁
    obtain ⟨hle₁, hfolders₁, huser₁, hok⟩ := h₁
    obtain ⟨hselected₁, hss₁⟩ := hok _ rfl
    have hchanged₁ := h.congr hfolders₁ huser₁
    have hafter : ∀ {r s₂}, Estate.faithful owner s₁ (.imap (.store uid change flag)) r s₂ →
        s₂.user = s.user ∧ I (tr₁ ++ [⟨.imap (.store uid change flag), r⟩]) s₂ ∧
          ((accepted? r).isSome → Attuned ss₁ s₂ ∧
            Changed s₀ change folder uid (flags ++ [flag]) s₂) := by
      intro r s₂ hr
      have hle := hle₁.trans (List.prefix_append tr₁
        [(⟨.imap (.store uid change flag), r⟩ : Event)])
      rcases hr with ⟨rfl, hnone⟩ | ⟨⟨i, n, hi, hn⟩, rfl⟩
      · exact ⟨huser₁, hbefore _ _ hle hfolders₁ huser₁, fun ha => by rw [hnone] at ha; cases ha⟩
      · have hchanged := hchanged₁.step flag hi hselected₁
        have huser : (s₁.flag uid change flag).user = s.user := by
          rw [Estate.flag_eq hi hn]
          exact huser₁
        refine ⟨huser, hI _ _ _ List.prefix_rfl hle huser hchanged, fun _ => ⟨?_, hchanged⟩⟩
        rw [Estate.flag_eq hi hn]
        exact hss₁
    refine Upholds.command_bind hI₁ (fun r s₂ items hr ha => ?_) fun r s₂ e hr _ => ?_
    · obtain ⟨huser, hI₂, hdone⟩ := hafter hr
      exact Upholds.pure hI₂ ⟨hle₁.trans (List.prefix_append _ _), huser,
        fun _ _ => hdone (by rw [ha]; rfl)⟩
    · obtain ⟨huser, hI₂, -⟩ := hafter hr
      exact ⟨hI₂, hle₁.trans (List.prefix_append _ _), huser, of_error_eq_ok⟩
  · rw [if_neg hflag]
    exact Upholds.throw hnow ⟨List.prefix_rfl, rfl, of_error_eq_ok⟩

/-! ## §5. Filing. -/

/-- A message is filed in the folder that is named, or nothing is. -/
theorem upholds_append (raw : Octets) (words : String) (h : I tr s)
    (hI : ∀ tr' s', tr <+: tr' → (s' = s ∨ ∃ i new, s.user = some i ∧ s' = s.file i folder new) →
      I tr' s') :
    Upholds (Estate.faithful owner) I (append folder raw words) (fun _ _ _ _ => True) ss tr s := by
  unfold append
  have hafter : ∀ r s₁,
      Estate.faithful owner s (.imap (.append (quotedName folder) words raw)) r s₁ →
      I (tr ++ [⟨.imap (.append (quotedName folder) words raw), r⟩]) s₁ := by
    intro r s₁ hr
    refine hI _ _ (List.prefix_append _ _) (hr.imp_right fun hr => ?_)
    rwa [unquotedName_quotedName] at hr
  refine Upholds.command_bind h (fun r s₁ items hr _ => ?_) fun r s₁ e hr _ => ?_
  · exact Upholds.pure (hafter r s₁ hr) trivial
  · exact ⟨hafter r s₁ hr, trivial⟩

end

end Mailroom.Imap
