import Mathlib.Data.List.ModifyLast
import Mailroom.Proofs.Imap.Vocabulary
/-!
  Mailroom.Proofs.Imap.Parting
  ────────────────────────────────
  **WHICH CONNECTIONS ARE LEFT WITH A WORD.**

  A `Talk` is what was said on one connection, from its opening on.  It is `Parted` if
  LOGOUT was said once, at its end, and `Dropped` if its last word was a STARTTLS that
  failed, or a LOGIN that failed in a way that nobody expects: then no LOGOUT was said.
  Whatever a session does between LOGIN and the end, and whatever it is answered:

      Settled       — every talk so far is parted or dropped
      Ongoing       — every other one is, and the last one goes on
      leaves_within — what is done in a session leaves things settled
-/
namespace Mailroom.Imap

open Mailroom.Directory Mailroom.Scan

/-! ## §1. Talks. -/

/-- What was said on one connection, and what was answered. -/
abbrev Talk : Type := List (Command × Except Fault Response)

/-- Whether a command is the last of a talk. -/
def isFarewell : Command → Bool
  | .logout => true
  | _ => false

/-- The talks after one more event: a connection that was opened begins one. -/
def talksAfter (talks : List Talk) : Event → List Talk
  | ⟨.connect _, .ok _⟩ => talks ++ [[]]
  | ⟨.imap c, r⟩ => talks.modifyLast (· ++ [(c, r)])
  | _ => talks

/-- The talks in some events, one for each connection that was opened. -/
def talks (tr : List Event) : List Talk := tr.foldl talksAfter []

theorem talks_concat (tr : List Event) (ev : Event) :
    talks (tr ++ [ev]) = talksAfter (talks tr) ev := by
  simp [talks, List.foldl_append]

/-- No farewell was said. -/
def Unparted (talk : Talk) : Prop := ∀ x ∈ talk, isFarewell x.1 = false

/-- LOGOUT was said once, as the last word. -/
def Parted (talk : Talk) : Prop := ∃ said r, talk = said ++ [(.logout, r)] ∧ Unparted said

/-- Whether a connection is dropped after a fault: after any of STARTTLS, and after one of
LOGIN that nobody expects. -/
def drops : Command → Fault → Bool
  | .startTls, _ => true
  | .login _ _, .foreign _ => true
  | _, _ => false

/-- The last word failed, and no farewell was said. -/
def Dropped (talk : Talk) : Prop :=
  ∃ said c fault, talk = said ++ [(c, .error fault)] ∧ drops c fault = true ∧ Unparted talk

/-- Every talk is at its end. -/
def Settled (tr : List Event) : Prop := ∀ talk ∈ talks tr, Parted talk ∨ Dropped talk

/-- The last talk is going on, and every other one is at its end. -/
def Ongoing (tr : List Event) : Prop :=
  ∃ past talk, talks tr = past ++ [talk] ∧ Unparted talk ∧
    ∀ talk ∈ past, Parted talk ∨ Dropped talk

/-- An event after which a connection is dropped. -/
def severs : Event → Bool
  | ⟨.imap c, .error fault⟩ => drops c fault
  | _ => false

/-! ## §2. Steps. -/

section Steps

variable {tr : List Event}

theorem talks_said {past : List Talk} {talk : Talk} (h : talks tr = past ++ [talk]) (c : Command)
    (r : Except Fault Response) :
    talks (tr ++ [⟨.imap c, r⟩]) = past ++ [talk ++ [(c, r)]] := by
  rw [talks_concat, h]
  exact List.modifyLast_concat _ _ _

/-- What stands in a talk was said and answered so. -/
theorem mem_of_mem_talks {talk : Talk} (htalk : talk ∈ talks tr)
    {x : Command × Except Fault Response} (hx : x ∈ talk) : (⟨.imap x.1, x.2⟩ : Event) ∈ tr := by
  induction tr using List.reverseRecOn generalizing talk with
  | nil => cases htalk
  | append_singleton tr ev ih =>
    have hbefore : talk ∈ talks tr → (⟨.imap x.1, x.2⟩ : Event) ∈ tr ++ [ev] :=
      fun h => List.mem_append_left _ (ih h hx)
    by_cases himap : ∃ c r, ev = ⟨.imap c, r⟩
    · obtain ⟨c, r, rfl⟩ := himap
      rcases List.eq_nil_or_concat (talks tr) with h | ⟨past, last, h⟩
      · rw [talks_concat, h] at htalk
        cases htalk
      · -- The last talk got longer by what was said, and the others are the same.
        rw [List.concat_eq_append] at h
        rw [talks_said h] at htalk
        rcases List.mem_append.1 htalk with ht | ht
        · exact hbefore (h ▸ List.mem_append_left _ ht)
        · rw [List.mem_singleton.1 ht] at hx
          rcases List.mem_append.1 hx with hx | hx
          · exact List.mem_append_left _ (ih (h ▸ List.mem_append_right _ List.mem_cons_self) hx)
          · rw [List.mem_singleton.1 hx]
            exact List.mem_append_right _ List.mem_cons_self
    · rw [talks_concat] at htalk
      unfold talksAfter at htalk
      split at htalk
      · rcases List.mem_append.1 htalk with ht | ht
        · exact hbefore ht
        · rw [List.mem_singleton.1 ht] at hx
          cases hx
      · exact absurd ⟨_, _, rfl⟩ himap
      · exact hbefore htalk

/-- Without an event that severs a connection, none is dropped. -/
theorem parted_of_not_severed (hsettled : ∀ talk ∈ talks tr, Parted talk ∨ Dropped talk)
    (h : ∀ ev ∈ tr, severs ev = false) : ∀ talk ∈ talks tr, Parted talk := by
  intro talk htalk
  refine (hsettled talk htalk).resolve_right fun hdropped => ?_
  obtain ⟨said, c, fault, rfl, hdrops, -⟩ := hdropped
  have hev := h _ (mem_of_mem_talks htalk (x := (c, .error fault)) (by simp))
  rw [severs, hdrops] at hev
  cases hev

theorem Settled.nil : Settled [] := nofun

/-- What is not said on a connection. -/
def Aside : Mailroom.Command → Prop
  | .connect _ | .imap _ => False
  | _ => True

theorem talks_aside {c : Mailroom.Command} (hc : Aside c) (r : c.Answer) :
    talks (tr ++ [⟨c, r⟩]) = talks tr := by
  rw [talks_concat]
  match c, hc with
  | .get _, _ | .scanId, _ | .clock, _ | .stamp, _ | .draw, _ | .sleep _, _ | .classify _, _
  | .smtp _, _ => rfl

theorem Settled.aside (h : Settled tr) {c : Mailroom.Command} (hc : Aside c) (r : c.Answer) :
    Settled (tr ++ [⟨c, r⟩]) := by
  unfold Settled
  rw [talks_aside hc]
  exact h

theorem Ongoing.aside (h : Ongoing tr) {c : Mailroom.Command} (hc : Aside c) (r : c.Answer) :
    Ongoing (tr ++ [⟨c, r⟩]) := by
  unfold Ongoing
  rw [talks_aside hc]
  exact h

/-- A connection that was opened begins a talk. -/
theorem Settled.connected (h : Settled tr) (e : Endpoint) (capabilities : List String) :
    Ongoing (tr ++ [⟨.connect e, .ok capabilities⟩]) :=
  ⟨talks tr, [], talks_concat tr _, nofun, h⟩

/-- A connection that was not opened has no talk. -/
theorem Settled.unconnected (h : Settled tr) (e : Endpoint) (fault : Fault) :
    Settled (tr ++ [⟨.connect e, .error fault⟩]) := by
  unfold Settled
  rw [talks_concat]
  exact h

theorem Unparted.concat {talk : Talk} (h : Unparted talk) {c : Command}
    (hc : isFarewell c = false) (r : Except Fault Response) : Unparted (talk ++ [(c, r)]) := by
  intro x hx
  rcases List.mem_append.1 hx with hx | hx
  · exact h x hx
  · rw [List.mem_singleton.1 hx]
    exact hc

/-- A talk goes on until a farewell is said. -/
theorem Ongoing.said (h : Ongoing tr) {c : Command} (hc : isFarewell c = false)
    (r : Except Fault Response) : Ongoing (tr ++ [⟨.imap c, r⟩]) := by
  obtain ⟨past, talk, htalks, hunparted, hpast⟩ := h
  exact ⟨past, _, talks_said htalks c r, hunparted.concat hc r, hpast⟩

theorem Settled.of_talks {past : List Talk} {talk : Talk} (h : talks tr = past ++ [talk])
    (hpast : ∀ talk ∈ past, Parted talk ∨ Dropped talk) (htalk : Parted talk ∨ Dropped talk) :
    Settled tr := by
  intro t ht
  rw [h] at ht
  rcases List.mem_append.1 ht with ht | ht
  · exact hpast t ht
  · rw [List.mem_singleton.1 ht]
    exact htalk

/-- The farewell ends it. -/
theorem Ongoing.parted (h : Ongoing tr) (r : Except Fault Response) :
    Settled (tr ++ [⟨.imap .logout, r⟩]) := by
  obtain ⟨past, talk, htalks, hunparted, hpast⟩ := h
  exact .of_talks (talks_said htalks .logout r) hpast (.inl ⟨talk, r, rfl, hunparted⟩)

/-- And so does a fault after which nothing more is said. -/
theorem Ongoing.dropped (h : Ongoing tr) {c : Command} {fault : Fault}
    (hdrops : drops c fault = true) :
    Settled (tr ++ [⟨.imap c, .error fault⟩]) := by
  obtain ⟨past, talk, htalks, hunparted, hpast⟩ := h
  have hc : isFarewell c = false := by
    cases c <;> first | rfl | cases hdrops
  exact .of_talks (talks_said htalks c _) hpast
    (.inr ⟨talk, c, fault, rfl, hdrops, hunparted.concat hc _⟩)

end Steps

/-! ## §3. Sessions. -/

/-- What a session may ask while it is open: work in folders, and what is not said on a
connection. -/
def WhileOpen (c : Mailroom.Command) : Prop := InFolders c ∨ Aside c

section Sessions

variable {σ : Type} {law : Law σ} {tr : List Event} {s : σ}

theorem Ongoing.worked (h : Ongoing tr) {c : Mailroom.Command} (hc : WhileOpen c) (r : c.Answer) :
    Ongoing (tr ++ [⟨c, r⟩]) := by
  rcases hc with hc | hc
  · match c, r, hc with
    | .imap (.select _ _), r, _ | .imap .list, r, _ | .imap (.append _ _ _), r, _
    | .imap (.search _), r, _ | .imap (.fetch _), r, _ | .imap (.store _ _ _), r, _ =>
      exact h.said rfl r
  · exact h.aside hc r

theorem keeps_connect_settled (e : Endpoint) (h : Settled tr) :
    (connect e).run.Keeps law (fun _ _ => True) (fun x tr' _ => match x with
      | .ok _ => Ongoing tr'
      | .error _ => Settled tr') tr s := by
  unfold connect
  refine keeps_ask_bind trivial fun r s₁ _ => ?_
  match r with
  | .error fault => exact ⟨trivial, h.unconnected e fault⟩
  | .ok capabilities =>
    have hopen := h.connected e capabilities
    dsimp only
    split
    · refine keeps_ask_bind trivial fun r s₂ _ => ?_
      match r with
      -- Nobody says LOGOUT on a connection that could not be encrypted.
      | .error fault => exact ⟨trivial, hopen.dropped rfl⟩
      | .ok r => exact ⟨trivial, hopen.said rfl _⟩
    · exact ⟨trivial, hopen⟩

theorem keeps_login_settled (m : Mailbox) (e : Endpoint) (h : Ongoing tr) :
    (login m e).run.Keeps law (fun _ _ => True) (fun x tr' _ => match x with
      | .ok _ => Ongoing tr'
      | .error _ => Settled tr') tr s := by
  unfold login
  refine keeps_ask_bind trivial fun r s₁ _ => ?_
  match r with
  | .ok r => exact ⟨trivial, h.said rfl _⟩
  | .error (.foreign reason) => exact ⟨trivial, h.dropped rfl⟩
  | .error (.connection reason) =>
    -- A LOGIN that failed is followed by the farewell, whatever comes of that.
    have hfailed := h.said (c := .login m.imap.user m.imap.password) rfl
      (.error (.connection reason))
    refine keeps_ask_bind trivial fun r s₂ _ => ?_
    match r with
    | .error (.foreign reason) => exact ⟨trivial, hfailed.parted _⟩
    | .error (.connection reason) => exact ⟨trivial, hfailed.parted _⟩
    | .ok r => exact ⟨trivial, hfailed.parted _⟩

theorem keeps_start_settled (t : Transport) (m : Mailbox) (h : Settled tr) :
    (t.start m).run.Keeps law (fun _ _ => True) (fun x tr' _ => match x with
      | .ok _ => Ongoing tr'
      | .error _ => Settled tr') tr s := by
  unfold Transport.start
  refine keeps_program_bind (keeps_connect_settled _ h) (fun _ tr₁ s₁ _ h₁ => ?_) fun _ _ _ _ h => h
  refine keeps_program_bind (keeps_login_settled _ _ h₁) (fun _ tr₂ s₂ _ h₂ => ?_)
    fun _ _ _ _ h => h
  exact ⟨trivial, h₂⟩

theorem keeps_close_settled {ss : Session} (h : Ongoing tr) :
    Upholds law (fun _ _ => True) close (fun _ _ tr' _ => Settled tr') ss tr s := by
  unfold close
  refine Upholds.ask_bind trivial fun r s₁ _ => Upholds.update_bind ?_
  match r with
  | .ok r => exact Upholds.pure trivial (h.parted _)
  | .error (.connection reason) => exact Upholds.pure trivial (h.parted _)
  | .error (.foreign reason) => exact Upholds.throw trivial (h.parted _)

/-! ## §4. What leaves things settled. -/

/-- Started when every talk is at its end, a dialogue ends so again. -/
def Leaves {α : Type} (law : Law σ) (d : Dialogue α) : Prop :=
  ∀ tr s, Settled tr → d.Keeps law (fun _ _ => True) (fun _ tr _ => Settled tr) tr s

/-- **Whatever is done in a session leaves things settled**: the session is left with a
farewell, also if the work in it failed, or its connection was dropped before. -/
theorem leaves_within {α : Type} (t : Transport) (m : Mailbox) {body : SessionM α}
    (hbody : Asks WhileOpen body) : Leaves law (t.within m body).run := by
  intro tr s h
  unfold Transport.within
  refine keeps_program_bind (keeps_start_settled t m h) (fun ss tr₁ s₁ _ h₁ => ?_)
    fun _ _ _ _ h => h
  have hwork : (body.run.run ss).Keeps law (fun tr _ => Ongoing tr) (fun _ tr _ => Ongoing tr)
      tr₁ s₁ :=
    (hbody.poses ss).keeps (fun _ _ _ r _ hc _ h => h.worked hc r) h₁
  refine keeps_lift_bind ((hwork.weaken fun _ _ _ => trivial).mono ?_)
  intro last tr₂ s₂ _ h₂
  obtain ⟨x, ss₂⟩ := last
  -- The session is closed whatever came of the work.
  refine keeps_lift_bind (Dialogue.Keeps.mono (keeps_close_settled h₂) ?_)
  intro last tr₃ s₃ _ h₃
  obtain ⟨closed | _, ss₃⟩ := last
  · exact ⟨trivial, h₃⟩
  · cases x <;> exact ⟨trivial, h₃⟩

namespace Leaves

variable {α β : Type}

theorem pure (a : α) : Leaves law (.pure a) := fun _ _ hs => ⟨trivial, hs⟩

theorem bind {d : Dialogue α} {f : α → Dialogue β} (h : Leaves law d)
    (hf : ∀ a, Leaves law (f a)) : Leaves law (d.bind f) :=
  fun tr s hs => Dialogue.Keeps.bind ((h tr s hs).mono fun a tr s _ hs => hf a tr s hs)

theorem program_bind {prog : Program α} {f : α → Program β} (h : Leaves law prog.run)
    (hf : ∀ a, Leaves law (f a).run) : Leaves law (prog >>= f).run :=
  fun tr s hs => keeps_program_bind (h tr s hs) (fun a tr s _ hs => hf a tr s hs)
    fun _ _ _ _ h => h

theorem lift {d : Dialogue α} (h : Leaves law d) :
    Leaves law (ExceptT.lift d : Program α).run :=
  h.bind fun _ => pure _

/-- What is not said on a connection leaves the talks as they are. -/
theorem of_poses {d : Dialogue α} (h : d.Poses Aside) : Leaves law d := by
  intro tr s hs
  have hkept : d.Keeps law (fun tr _ => Settled tr) (fun _ tr _ => Settled tr) tr s :=
    h.keeps (fun _ _ _ r _ hc _ h => h.aside hc r) hs
  exact hkept.weaken fun _ _ _ => trivial

end Leaves

end Sessions

end Mailroom.Imap
