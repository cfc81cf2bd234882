import Mailroom.Proofs.Imap.Estate
/-!
  Mailroom.Proofs.Imap.Faithful
  ────────────────────────────────
  **SERVERS THAT DO WHAT THEY CONFIRM.**

  The law of an estate leaves open what a server does of what it confirms.  Faithful
  servers keep a narrower one, also with somebody who writes more than flags:

      STORE  — where it is accepted, it has changed the flag; where not, it may have
      APPEND — files one message in the folder that it names, or nothing
      SMTP   — a letter that is handed over is no change of the sender's mail

  `Kept.retag` says what some changes of flags come to, one after the other.  A simulated
  world in which the folders of an account have different names is faithful.

      law_of_faithful — the law of faithful servers is narrower than that of any servers
      faithful_answer — every answer of such a world is that of a faithful server
-/
namespace Mailroom.Imap

open Mailroom.Simulation

/-! ## §1. Changes. -/

/-- The message with some flags set or taken away. -/
def Kept.retag : Change → List String → Kept → Kept
  | .add, flags, k => { k with flags := k.flags ∪ flags.toFinset }
  | .remove, flags, k => { k with flags := k.flags \ flags.toFinset }

theorem Kept.retag_nil (change : Change) (k : Kept) : Kept.retag change [] k = k := by
  cases change <;> simp [retag]

/-- One more flag is changed after the others. -/
theorem Kept.change_retag (change : Change) (flags : List String) (flag : String) (k : Kept) :
    Kept.change flag change (Kept.retag change flags k)
      = Kept.retag change (flags ++ [flag]) k := by
  cases change with
  | add => simp [retag, Kept.change, Kept.add, List.toFinset_append, Finset.union_assoc]
  | remove =>
    simp only [retag, Kept.change, Kept.mk.injEq, true_and, and_true]
    ext x
    simp only [Finset.mem_erase, Finset.mem_sdiff, List.mem_toFinset, List.mem_append,
      List.mem_singleton, not_or]
    tauto

@[simp] theorem Kept.retag_uid (change : Change) (flags : List String) (k : Kept) :
    (Kept.retag change flags k).uid = k.uid := by
  cases change <;> rfl

namespace Folders

theorem change_change (fs : Folders) (folder : String) (uid : Int) {f g : Kept → Kept}
    (hf : ∀ k, (f k).uid = k.uid) :
    (fs.change folder uid f).change folder uid g = fs.change folder uid fun k => g (f k) := by
  funext n
  unfold change
  split
  · rw [List.map_map]
    refine List.map_congr_left fun k _ => ?_
    by_cases hk : k.uid = uid <;> simp [hk, hf]
  · rfl

theorem change_id (fs : Folders) (folder : String) (uid : Int) {f : Kept → Kept}
    (hf : ∀ k, f k = k) : fs.change folder uid f = fs := by
  funext n
  simp [change, hf]

/-- The folders with a message more in one of them. -/
def file (fs : Folders) (folder : String) (new : Kept) : Folders :=
  fun n => if n = folder then fs n ++ [new] else fs n

end Folders

/-! ## §2. The law. -/

namespace Estate

variable {ι : Type} [DecidableEq ι]

/-- The estate with a message more in a folder of an account. -/
def file (s : Estate ι) (i : ι) (folder : String) (new : Kept) : Estate ι :=
  { s with folders := Function.update s.folders i ((s.folders i).file folder new) }

/-- The law of an estate on faithful servers. -/
def faithful (owner : Json → Option ι) : Law (Estate ι)
  | s, .imap (.store uid change flag), r, s' =>
    s' = s ∧ accepted? r = none ∨
      (∃ i n, s.user = some i ∧ s.selected = some n) ∧ s' = s.flag uid change flag
  | s, .imap (.append quoted _ _), _, s' =>
    s' = s ∨ ∃ i new, s.user = some i ∧ s' = s.file i (World.unquotedName quoted) new
  | s, .smtp _, _, s' => s' = s
  | s, c, r, s' => law owner s c r s'

/-- Faithful servers keep the law of every estate. -/
theorem law_of_faithful {owner : Json → Option ι} {s s' : Estate ι} {c : Mailroom.Command}
    {r : c.Answer} (h : faithful owner s c r s') : law owner s c r s' := by
  match c, r, h with
  | .imap (.store _ _ _), _, h => exact h.imp (fun h => h.1) fun h => h.2
  | .imap (.append _ _ _), _, _ => trivial
  | .smtp _, _, _ => trivial
  | .imap (.select _ _), _, h | .imap (.login _ _), _, h | .imap (.search _), _, h
  | .imap (.fetch _), _, h | .imap .list, _, h | .imap .startTls, _, h | .imap .logout, _, h
  | .get _, _, h | .scanId, _, h | .clock, _, h | .stamp, _, h | .draw, _, h | .sleep _, _, h
  | .classify _, _, h | .connect _, _, h => exact h

end Estate

end Mailroom.Imap

/-! ## §3. A simulated world. -/

namespace Mailroom.Simulation

open Mailroom.Imap

/-- The names of the folders of each account. -/
def World.boxNames (w : World) : List (List String) := w.accounts.map fun a => a.boxes.map (·.name)

/-- A truthful world in which the folders of an account have different names. -/
structure World.Orderly (owner : Json → Option Nat) (w : World) : Prop where
  truthful : w.Truthful owner
  distinct : ∀ names ∈ w.boxNames, names.Nodup

namespace Account

theorem update_names (a : Account) (name : String) (f : List Stored → List Stored) :
    (a.update name f).boxes.map (·.name) = a.boxes.map (·.name) := by
  unfold update
  rw [List.map_map]
  refine List.map_congr_left fun b _ => ?_
  by_cases hb : b.name = name <;> simp [hb]

/-- Where names are different, a folder is the only one of its name. -/
theorem filter_of_box? {boxes : List Box} {name : String} {b : Box}
    (hdistinct : (boxes.map (·.name)).Nodup) (hb : boxes.find? (·.name == name) = some b) :
    boxes.filter (·.name == name) = [b] := by
  induction boxes with
  | nil => cases hb
  | cons c boxes ih =>
    rw [List.map_cons, List.nodup_cons] at hdistinct
    by_cases hc : c.name = name
    · have hfirst : c = b := by simpa [hc] using hb
      have hrest : boxes.filter (·.name == name) = [] := by
        refine List.filter_eq_nil_iff.2 fun d hd hname => hdistinct.1 ?_
        rw [hc, ← eq_of_beq hname]
        exact List.mem_map_of_mem hd
      rw [List.filter_cons_of_pos (by simpa using hc), hrest, hfirst]
    · rw [List.filter_cons_of_neg (by simpa using hc)]
      exact ih hdistinct.2 (by simpa [hc] using hb)

/-- A message that is filed stands at the end of its folder. -/
theorem kept_file (a : Account) {name : String} {b : Box} (new : Stored)
    (hdistinct : (a.boxes.map (·.name)).Nodup) (hb : a.box? name = some b) :
    (a.update name (· ++ [new])).kept = a.kept.file name new.kept := by
  funext n
  have hname : b.name = name := by simpa using List.find?_some hb
  have hboxes : ((a.update name (· ++ [new])).boxes.filter (·.name == n))
      = (a.boxes.filter (·.name == n)).map fun b =>
        if b.name == name then { b with messages := b.messages ++ [new] } else b := by
    unfold update
    rw [List.filter_map]
    congr 1
    refine List.filter_congr fun b _ => ?_
    by_cases hb : b.name = name <;> simp [hb]
  unfold kept Folders.file
  rw [hboxes]
  split
  next hn =>
    subst hn
    have hone : a.boxes.filter (·.name == n) = [b] := filter_of_box? hdistinct hb
    simp [hone, hname, Stored.kept]
  next hn =>
    rw [List.flatMap_map]
    refine List.flatMap_congr fun c hc => ?_
    have hc : c.name ≠ name := by
      have hcn : c.name = n := by simpa using (List.mem_filter.1 hc).2
      exact hcn ▸ hn
    simp [hc]

end Account

namespace World

variable {owner : Json → Option Nat} {w : World}

theorem updateCurrent_boxNames (w : World) (name : String) (f : List Stored → List Stored) :
    (w.updateCurrent (·.update name f)).boxNames = w.boxNames := by
  unfold updateCurrent boxNames
  split
  next i _ =>
    refine List.ext_getElem? fun j => ?_
    simp only [List.getElem?_map, List.getElem?_modify]
    split
    next hij => cases w.accounts[j]? <;> simp [Account.update_names]
    next => simp
  next => rfl

theorem perform_boxNames (w : World) (a : Account) (c : Imap.Command) :
    (w.perform a c).2.boxNames = w.boxNames := by
  cases c with
  | store uid change flag =>
    simp only [perform]
    split
    · exact updateCurrent_boxNames _ _ _
    · rfl
  | append quoted flags raw =>
    simp only [perform]
    split
    · exact updateCurrent_boxNames _ _ _
    · rfl
  | select _ _ | search _ | fetch _ =>
    simp only [perform]
    split <;> rfl
  | list | startTls | login _ _ | logout => rfl

theorem imap_boxNames (w : World) (c : Imap.Command) : (w.imap c).2.boxNames = w.boxNames := by
  unfold imap
  simp only [trip_eq]
  generalize w.emailAt _ = email
  cases (fire (pointOf c) email w.faults).1 with
  | some effect => rfl
  | none =>
    cases c with
    | login user password =>
      dsimp only
      split <;> rfl
    | startTls | logout => rfl
    | select _ _ | append _ _ _ | store _ _ _ | search _ | fetch _ | list =>
      dsimp only
      split
      · exact perform_boxNames _ _ _
      · rfl

theorem smtp_accounts (w : World) (c : Smtp.Command) :
    (w.smtp c).2.accounts = w.accounts ∧ (w.smtp c).2.user = w.user ∧
      (w.smtp c).2.folder = w.folder := by
  have hstep : ∀ (w : World) p rs k, (w.smtpStep p rs k).2 = (w.trip p w.smtpUser).2 := by
    intro w p rs k
    unfold smtpStep
    split <;> rename_i heq <;> rw [heq]
  cases c with
  | connect _ | startTls | login _ _ | send _ _ _ =>
    unfold smtp
    rw [hstep]
    exact ⟨rfl, rfl, rfl⟩
  | hello | quit => exact ⟨rfl, rfl, rfl⟩

theorem answer_boxNames (w : World) (c : Mailroom.Command) :
    (answer c w).2.boxNames = w.boxNames := by
  cases c with
  | imap c => exact imap_boxNames _ c
  | smtp c => exact congrArg (List.map _) (smtp_accounts _ c).1
  | get r =>
    simp only [answer, get]
    split <;> rfl
  | classify q =>
    simp only [answer]
    split <;> rfl
  | connect e =>
    show (World.connect { w with asked := .connect e :: w.asked } e).2.boxNames = w.boxNames
    rw [connect_world]
    rfl
  | scanId | clock | stamp | draw | sleep _ => rfl

/-- What is changed in the account of the connection is changed in the estate. -/
theorem estate_updateCurrent (w : World) (f : Account → Account) {i : Nat} {a : Account}
    (hu : w.user = some i) (ha : w.accounts[i]? = some a) :
    (w.updateCurrent f).estate
      = { w.estate with folders := Function.update w.estate.folders i (f a).kept } := by
  unfold updateCurrent
  simp only [hu, estate, Estate.mk.injEq, and_true]
  funext j
  rw [List.getElem?_modify, Function.update_apply]
  by_cases hij : j = i
  · subst hij
    simp [ha]
  · simp [hij, Ne.symm hij]

/-- What comes of a command for the account of the connection: a fault, nothing where there
is no account, or what the server performs. -/
theorem imap_cases (h : w.Truthful owner) {c : Imap.Command} (hlogin : ∀ u p, c ≠ .login u p)
    (hstart : c ≠ .startTls) (hlogout : c ≠ .logout) :
    ∃ w₁ : World, w₁.estate = w.estate ∧ w₁.boxNames = w.boxNames ∧
      ((w.imap c).2 = w₁ ∧ accepted? (w.imap c).1 = none ∨
        ∃ i a, w₁.user = some i ∧ w₁.accounts[i]? = some a ∧
          w.imap c = (.ok (w₁.perform a c).1, (w₁.perform a c).2)) := by
  have hfaults := fire_effects h.faults (pointOf c) (w.emailAt w.user)
  refine ⟨{ w with faults := (fire (pointOf c) (w.emailAt w.user) w.faults).2 }, rfl, rfl, ?_⟩
  unfold imap
  cases c with
  | login u p => exact absurd rfl (hlogin u p)
  | startTls => exact absurd rfl hstart
  | logout => exact absurd rfl hlogout
  | select _ _ | append _ _ _ | store _ _ _ | search _ | fetch _ | list =>
    simp only [trip_eq]
    cases heffect : (fire _ (w.emailAt w.user) w.faults).1 with
    | some effect =>
      refine .inl ⟨rfl, accepted?_imapOutcome fun detail heq => ?_⟩
      exact hfaults.1 detail (heffect.trans (congrArg some heq))
    | none =>
      dsimp only
      split
      next a ha =>
        obtain ⟨i, hi, ha⟩ := Option.bind_eq_some_iff.1 ha
        exact .inr ⟨i, a, hi, ha, rfl⟩
      next => exact .inl ⟨rfl, accepted?_no _⟩

theorem faithful_store (h : w.Orderly owner) (uid : Int) (change : Change) (flag : String) :
    Estate.faithful owner w.estate (.imap (.store uid change flag))
      (w.imap (.store uid change flag)).1 (w.imap (.store uid change flag)).2.estate := by
  obtain ⟨w₁, hestate, -, ⟨hafter, hnone⟩ | ⟨i, a, hi, ha, himap⟩⟩ :=
    imap_cases h.truthful (c := .store uid change flag) nofun nofun nofun
  · exact .inl ⟨by rw [hafter, hestate], hnone⟩
  · rw [himap, ← hestate]
    simp only [perform]
    split
    next name hfolder =>
      exact .inr ⟨⟨i, name, hi, hfolder⟩, estate_store w₁ hfolder uid change flag⟩
    next => exact .inl ⟨rfl, accepted?_no _⟩

theorem faithful_append (h : w.Orderly owner) (quoted flags : String) (raw : Octets) :
    Estate.faithful owner w.estate (.imap (.append quoted flags raw))
      (w.imap (.append quoted flags raw)).1 (w.imap (.append quoted flags raw)).2.estate := by
  obtain ⟨w₁, hestate, hnames, ⟨hafter, -⟩ | ⟨i, a, hi, ha, himap⟩⟩ :=
    imap_cases h.truthful (c := .append quoted flags raw) nofun nofun nofun
  · exact .inl (by rw [hafter, hestate])
  · rw [himap, ← hestate]
    simp only [perform]
    split
    next b hb =>
      have hdistinct : (a.boxes.map (·.name)).Nodup :=
        h.distinct _ (hnames ▸ List.mem_map_of_mem (List.mem_of_getElem? ha))
      have hfolders : w₁.estate.folders i = a.kept := by simp [estate, ha]
      let new : Stored := { uid := nextUid b.messages, flags := wordsIn flags, raw }
      refine .inr ⟨i, new.kept, hi, ?_⟩
      show (w₁.updateCurrent (·.update (unquotedName quoted) (· ++ [new]))).estate = _
      rw [estate_updateCurrent w₁ _ hi ha, Account.kept_file a _ hdistinct hb, Estate.file,
        hfolders]
    next => exact .inl rfl

/-- **A simulated world in which folders have different names is faithful.** -/
theorem faithful_answer (h : w.Orderly owner) (c : Mailroom.Command) :
    Estate.faithful owner w.estate c (answer c w).1 (answer c w).2.estate ∧
      (answer c w).2.Orderly owner := by
  obtain ⟨hlaw, htruthful⟩ := lawful_answer h.truthful c
  refine ⟨?_, htruthful, fun names hn => h.distinct names (answer_boxNames w c ▸ hn)⟩
  have hasked : { w with asked := c :: w.asked }.Orderly owner :=
    ⟨⟨h.truthful.owned, h.truthful.faults⟩, h.distinct⟩
  match c with
  | .imap (.store uid change flag) => exact faithful_store hasked uid change flag
  | .imap (.append quoted flags raw) => exact faithful_append hasked quoted flags raw
  | .smtp c =>
    obtain ⟨haccounts, huser, hfolder⟩ := smtp_accounts { w with asked := .smtp c :: w.asked } c
    show World.estate (World.smtp _ c).2 = w.estate
    unfold estate
    rw [haccounts, huser, hfolder]
  | .imap (.select _ _) | .imap (.login _ _) | .imap (.search _) | .imap (.fetch _)
  | .imap .list | .imap .startTls | .imap .logout | .get _ | .scanId | .clock | .stamp | .draw
  | .sleep _ | .classify _ | .connect _ => exact hlaw

end World

end Mailroom.Simulation
