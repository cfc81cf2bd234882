import Mailroom.Proofs.Imap.Mailserver
/-!
  Mailroom.Proofs.Imap.Estate
  ────────────────────────────────
  **THE MAIL OF MANY ACCOUNTS, ON SERVERS THAT MAY ANSWER ANYTHING.**

  An estate is the messages of all accounts, with the account that is logged in on the
  connection and the folder selected there.  Its law says which changes a command may
  cause, and next to nothing about answers:

      SELECT   — where it is accepted, the folder that it names is selected
      STORE    — changes a flag in the selected folder of the account logged in, or
                 nothing, whatever the server says about it
      LOGIN    — leads to the account that a user owns, or to none
      APPEND and letters that are sent may change anything

  A simulated world obeys the law, seen as the estate that it holds.
-/
namespace Mailroom.Imap

open Mailroom.Simulation

/-! ## §1. Estates. -/

/-- The messages of all accounts, the account that is logged in on the connection and
the folder selected there. -/
structure Estate (ι : Type) where
  folders : ι → Folders
  user : Option ι := none
  selected : Option String := none

namespace Estate

variable {ι : Type} [DecidableEq ι]

/-- The estate with a flag of a message changed, in the selected folder of the account
that is logged in. -/
def flag (s : Estate ι) (uid : Int) (change : Change) (flag : String) : Estate ι :=
  match s.user, s.selected with
  | some i, some n => { s with
      folders := Function.update s.folders i ((s.folders i).change n uid (Kept.change flag change)) }
  | _, _ => s

/-! ## §2. What may come of a command. -/

/-- What may come of a command on a connection, given the accounts that users own. -/
def Serves (owner : Json → Option ι) (s : Estate ι) :
    Command → Except Fault Response → Estate ι → Prop
  | .select quoted _, r, s' => s'.folders = s.folders ∧ s'.user = s.user ∧
      ((accepted? r).isSome → s'.selected = some (World.unquotedName quoted))
  | .login user _, _, s' => s'.folders = s.folders ∧ s'.selected = s.selected ∧
      (s'.user = s.user ∨ s'.user = owner user)
  | .store uid change flag, _, s' => s' = s ∨ s' = s.flag uid change flag
  | .append _ _ _, _, _ => True
  | .search _, _, s' | .fetch _, _, s' | .list, _, s' | .startTls, _, s' | .logout, _, s' => s' = s

/-- The law of an estate.  On a new connection nobody is logged in. -/
def law (owner : Json → Option ι) : Law (Estate ι)
  | s, .imap c, r, s' => Serves owner s c r s'
  | s, .connect _, _, s' => s' = { s with user := none, selected := none }
  | _, .smtp _, _, _ => True
  | s, _, _, s' => s' = s

end Estate

end Mailroom.Imap

/-! ## §3. A simulated world. -/

namespace Mailroom.Simulation

open Mailroom.Imap

/-- A message that is kept. -/
def Stored.kept (m : Stored) : Kept where
  uid := m.uid
  flags := m.flags.toFinset
  raw := m.raw

/-- The messages of a folder. -/
def Account.kept (a : Account) : Folders :=
  fun n => (a.boxes.filter (·.name == n)).flatMap fun b => b.messages.map Stored.kept

/-- What a world holds. -/
def World.estate (w : World) : Estate Nat where
  folders i := match w.accounts[i]? with
    | some a => a.kept
    | none => fun _ => []
  user := w.user
  selected := w.folder

/-- A world in which users own certain accounts, and no fault looks as if the command
had been carried out. -/
structure World.Truthful (owner : Json → Option Nat) (w : World) : Prop where
  owned : ∀ user, w.accountOf? "imap" user = owner user
  faults : ∀ f ∈ w.faults, ∀ detail, f.effect ≠ .refused okStatus detail

theorem Stored.kept_change (m : Stored) (change : Change) (flag : String) :
    (m.change change flag).kept = Kept.change flag change m.kept := by
  cases change with
  | add =>
    simp only [Stored.change]
    by_cases hmem : flag ∈ m.flags
    · -- The flag is there already, so nothing changes in the set either.
      rw [if_pos (by simpa using hmem)]
      have hset : m.flags.toFinset ∪ {flag} = m.flags.toFinset :=
        Finset.union_eq_left.2 (by simpa using hmem)
      simp [Stored.kept, Kept.change, Kept.add, hset]
    · rw [if_neg (by simpa using hmem)]
      simp [Stored.kept, Kept.change, Kept.add, List.toFinset_append]
  | remove =>
    simp only [Stored.change, Stored.kept, Kept.change, Kept.mk.injEq, true_and, and_true]
    ext x
    simp [and_comm]

theorem Account.kept_update (a : Account) (name : String) (uid : Int) (change : Change)
    (flag : String) :
    (a.update name fun ms => ms.map fun m => if m.uid == uid then m.change change flag else m).kept
      = a.kept.change name uid (Kept.change flag change) := by
  funext n
  have hmessage : ∀ m : Stored, (if m.uid = uid then m.change change flag else m).kept
      = if m.kept.uid = uid then Kept.change flag change m.kept else m.kept := by
    intro m
    split
    next h => rw [Stored.kept_change, if_pos (show m.kept.uid = uid from h)]
    next h => rw [if_neg (show ¬ m.kept.uid = uid from h)]
  unfold Account.kept Account.update Folders.change
  dsimp only
  rw [List.filter_map, List.flatMap_map]
  -- No box changes its name, so the same boxes are looked at before and after.
  have hname : ((fun b : Box => b.name == n) ∘ fun b => if b.name == name then
        { b with messages := b.messages.map fun m => if m.uid == uid then m.change change flag else m }
      else b) = fun b => b.name == n := by
    funext b
    by_cases hb : b.name = name <;> simp [hb]
  rw [hname]
  split
  next hn =>
    rw [List.map_flatMap]
    refine List.flatMap_congr fun b hb => ?_
    have hb : b.name = name := by simpa [hn] using (List.mem_filter.1 hb).2
    simp [hb, hmessage]
  next hn =>
    refine List.flatMap_congr fun b hb => ?_
    have hb : b.name ≠ name := by
      have hbn : b.name = n := by simpa using (List.mem_filter.1 hb).2
      exact hbn ▸ hn
    simp [hb]

/-! A world that obeys the law. -/

namespace World

variable {owner : Json → Option Nat} {w : World}

theorem fire_effects {faults : List Fault}
    (h : ∀ f ∈ faults, ∀ detail, f.effect ≠ .refused okStatus detail) (p : Point)
    (account : Option Json) :
    (∀ detail, (fire p account faults).1 ≠ some (.refused okStatus detail)) ∧
      ∀ f ∈ (fire p account faults).2, ∀ detail, f.effect ≠ .refused okStatus detail := by
  induction faults with
  | nil => exact ⟨nofun, nofun⟩
  | cons f rest ih =>
    have hf := h f List.mem_cons_self
    have hrest := ih fun g hg => h g (List.mem_cons_of_mem _ hg)
    unfold fire
    -- The fault fires, or it is passed by and counts one more command at most.
    split
    · dsimp only
      split
      · exact ⟨fun detail heq => hf detail (Option.some.inj heq), List.forall_mem_cons.2
          ⟨hf, fun g hg => h g (List.mem_cons_of_mem _ hg)⟩⟩
      · exact ⟨hrest.1, List.forall_mem_cons.2 ⟨hf, hrest.2⟩⟩
    · exact ⟨hrest.1, List.forall_mem_cons.2 ⟨hf, hrest.2⟩⟩

theorem trip_eq (w : World) (p : Point) (account : Option Nat) :
    w.trip p account = ((fire p (w.emailAt account) w.faults).1,
      { w with faults := (fire p (w.emailAt account) w.faults).2 }) := rfl

theorem Truthful.fire (h : w.Truthful owner) (p : Point) (account : Option Json) :
    { w with faults := (fire p account w.faults).2 }.Truthful owner :=
  ⟨h.owned, (fire_effects h.faults p account).2⟩

/-- Changes in the boxes of an account do not change who owns it. -/
theorem Truthful.update (h : w.Truthful owner) (name : String)
    (f : List Stored → List Stored) : (w.updateCurrent (·.update name f)).Truthful owner := by
  unfold updateCurrent
  split
  next i _ =>
    refine ⟨fun user => ?_, h.faults⟩
    rw [← h.owned user]
    have hindex : ∀ w : World, w.accountOf? "imap" user
        = (w.accounts.map (·.user "imap")).findIdx? (· == user) := by
      intro w
      rw [List.findIdx?_map]
      rfl
    rw [hindex, hindex]
    congr 1
    apply List.ext_getElem?
    intro j
    simp only [List.getElem?_map, List.getElem?_modify]
    split
    next hij => cases w.accounts[j]? <;> rfl
    next => simp
  next => exact h

theorem estate_store (w : World) {name : String} (hfolder : w.folder = some name) (uid : Int)
    (change : Change) (flag : String) :
    (w.updateCurrent (·.update name fun ms =>
        ms.map fun m => if m.uid == uid then m.change change flag else m)).estate
      = w.estate.flag uid change flag := by
  unfold updateCurrent Estate.flag
  cases hu : w.user with
  | none => simp [estate, hu, hfolder]
  | some i =>
    simp only [estate, hu, hfolder, Estate.mk.injEq, and_true]
    funext j
    rw [List.getElem?_modify, Function.update_apply]
    by_cases hij : i = j
    · subst hij
      cases ha : w.accounts[i]? with
      | none =>
        funext n
        simp [Folders.change]
      | some a =>
        simp only [if_true, Option.map_eq_map, Option.map_some]
        exact Account.kept_update a name uid change flag
    · simp [hij, Ne.symm hij]

theorem accepted?_no (text : String) : accepted? (.ok (line "NO" text)) = none := by
  have hno : ("NO" == okStatus) = false := by decide
  simp [accepted?, line, hno]

theorem accepted?_imapOutcome {effect : Effect} (h : ∀ detail, effect ≠ .refused okStatus detail) :
    accepted? (imapOutcome effect) = none := by
  cases effect with
  | broken reason => rfl
  | refused status detail =>
    have hne : status ≠ okStatus := fun heq => h detail (heq ▸ rfl)
    simp [imapOutcome, accepted?, hne]
  | refusedAll => rfl

/-- A command that is not accepted and changes nothing keeps the law. -/
theorem serves_refused {c : Imap.Command} {r : Except Imap.Fault Response}
    (h : accepted? r = none) : Estate.Serves owner w.estate c r w.estate := by
  cases c with
  | select quoted readonly => exact ⟨rfl, rfl, fun ha => by rw [h] at ha; cases ha⟩
  | login user password => exact ⟨rfl, rfl, .inl rfl⟩
  | store uid change flag => exact .inl rfl
  | append _ _ _ => trivial
  | search _ | fetch _ | list | startTls | logout => rfl

/-- What comes of a command that is carried out keeps the law. -/
theorem serves_perform (h : w.Truthful owner) {a : Account} (c : Imap.Command)
    (hlogin : ∀ user password, c ≠ .login user password) :
    Estate.Serves owner w.estate c (.ok (w.perform a c).1) (w.perform a c).2.estate ∧
      (w.perform a c).2.Truthful owner := by
  cases c with
  | select quoted readonly =>
    simp only [perform]
    split
    next b hb =>
      have hname : b.name = unquotedName quoted := by
        simpa using List.find?_some hb
      exact ⟨⟨rfl, rfl, fun _ => congrArg some hname⟩, h.owned, h.faults⟩
    next =>
      -- No folder is selected any more, which the law leaves open.
      refine ⟨⟨rfl, rfl, fun ha => ?_⟩, h.owned, h.faults⟩
      rw [accepted?_no] at ha
      cases ha
  | search c =>
    simp only [perform]
    split <;> exact ⟨rfl, h⟩
  | fetch uids =>
    simp only [perform]
    split <;> exact ⟨rfl, h⟩
  | store uid change flag =>
    simp only [perform]
    split
    next name hfolder => exact ⟨.inr (estate_store w hfolder uid change flag), h.update _ _⟩
    next => exact ⟨.inl rfl, h⟩
  | append quoted flags raw =>
    simp only [perform]
    split
    · exact ⟨trivial, h.update _ _⟩
    · exact ⟨trivial, h⟩
  | list | startTls | logout => exact ⟨rfl, h⟩
  | login user password => exact absurd rfl (hlogin user password)

/-- What comes of a command on a connection keeps the law. -/
theorem serves_imap (h : w.Truthful owner) (c : Imap.Command) :
    Estate.Serves owner w.estate c (w.imap c).1 (w.imap c).2.estate ∧
      (w.imap c).2.Truthful owner := by
  unfold imap
  simp only [trip_eq]
  generalize w.emailAt _ = email
  have hfaults := fire_effects h.faults (pointOf c) email
  have hafter := h.fire (pointOf c) email
  cases heffect : (fire (pointOf c) email w.faults).1 with
  | some effect =>
    refine ⟨serves_refused (w := w) (accepted?_imapOutcome fun detail heq => ?_), hafter⟩
    exact hfaults.1 detail (heffect.trans (congrArg some heq))
  | none =>
    cases c with
    | login user password =>
      dsimp only
      split
      next i hi =>
        refine ⟨⟨rfl, rfl, .inr ?_⟩, hafter.owned, hafter.faults⟩
        rw [← h.owned user, hi]
        rfl
      next => exact ⟨⟨rfl, rfl, .inl rfl⟩, hafter⟩
    | startTls | logout => exact ⟨rfl, hafter⟩
    | select _ _ | append _ _ _ | store _ _ _ | search _ | fetch _ | list =>
      dsimp only
      split
      · exact serves_perform hafter _ nofun
      · exact ⟨serves_refused (w := w) (accepted?_no _), hafter⟩

/-- Opening a connection ends the one before it, whether it succeeds or not. -/
theorem connect_world (w : World) (e : Endpoint) :
    (w.connect e).2 = ({ w with user := none, folder := none }.trip .connect none).2 := by
  unfold connect
  split
  next h => rw [h]
  next h => rw [h]

/-- **A simulated world obeys the law of the estate that it holds.** -/
theorem lawful_answer (h : w.Truthful owner) (c : Mailroom.Command) :
    Estate.law owner w.estate c (answer c w).1 (answer c w).2.estate ∧
      (answer c w).2.Truthful owner := by
  have hasked : { w with asked := c :: w.asked }.Truthful owner := ⟨h.owned, h.faults⟩
  cases c with
  | imap c => exact serves_imap hasked c
  | get r =>
    simp only [answer, get]
    split <;> exact ⟨rfl, hasked.owned, hasked.faults⟩
  | classify q =>
    simp only [answer]
    split <;> exact ⟨rfl, hasked.owned, hasked.faults⟩
  | connect e =>
    have hnew : { w with asked := .connect e :: w.asked, user := none, folder := none }.Truthful
        owner := ⟨h.owned, h.faults⟩
    have hafter : (answer (.connect e) w).2 = ({ w with
        asked := .connect e :: w.asked, user := none, folder := none }.trip .connect none).2 :=
      connect_world _ e
    rw [hafter]
    exact ⟨rfl, hnew.fire _ _⟩
  | smtp c =>
    refine ⟨trivial, ?_⟩
    have hstep : ∀ (w : World) p rs k, w.Truthful owner → (w.smtpStep p rs k).2.Truthful owner := by
      intro w p rs k h
      have hafter : (w.smtpStep p rs k).2 = (w.trip p w.smtpUser).2 := by
        unfold smtpStep
        split <;> rename_i heq <;> rw [heq]
      rw [hafter]
      exact h.fire _ _
    cases c with
    | connect ep => exact hstep _ _ _ _ ⟨h.owned, h.faults⟩
    | login user password => exact hstep _ _ _ _ ⟨h.owned, h.faults⟩
    | startTls => exact hstep _ _ _ _ hasked
    | send _ _ _ => exact hstep _ _ _ _ hasked
    | hello | quit => exact hasked
  | scanId | clock | stamp | draw | sleep _ => exact ⟨rfl, hasked⟩

end World

end Mailroom.Simulation
