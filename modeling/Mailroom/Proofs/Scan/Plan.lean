import Mailroom.Proofs.Scan.Operation
/-!
  Mailroom.Proofs.Scan.Plan
  ────────────────────────────────
  **WHAT A SCAN IS TO WRITE, AND IN WHICH ORDER.**

  The outcome of a task is up to four writes, and the marker of the reply is the
  last of them.  The plan of a scan is what its judgements call for, one outcome
  after the other; what the scan has written at any moment is a start of it.

      writesOf  — the writes for the outcome of one task
      plan      — the writes for a list of judged tasks
      Confirmed — which of the writes that took effect were confirmed
-/
namespace Mailroom.Scan

open Mailroom.Imap Mailroom.Mail Mailroom.Reply

/-! ## §1. One outcome. -/

/-- The writes for the category of a reply: keywords before markers, and the marker
of the reply last. -/
def writesOf (c : Category) (reply : Place) (sent : Option Place) : List Write :=
  let keywords := fun (p : Place) => c.keyword?.toList.map fun k => (⟨p.folder, p.uid, k⟩ : Write)
  keywords reply ++ sent.toList.flatMap keywords
    ++ sent.toList.map (fun p => ⟨p.folder, p.uid, classifiedFlag⟩)
    ++ [⟨reply.folder, reply.uid, classifiedFlag⟩]

/-- The flags that the outcome of a category sets on a message. -/
def tags (c : Category) : Finset String := insert classifiedFlag c.keyword?.toList.toFinset

@[simp] theorem mem_tags {c : Category} {flag : String} :
    flag ∈ tags c ↔ flag = classifiedFlag ∨ flag ∈ c.keyword? := by
  simp [tags]

/-- An outcome sets the same flags on the reply and on the sent message. -/
theorem mem_writesOf {c : Category} {reply : Place} {sent : Option Place} {w : Write} :
    w ∈ writesOf c reply sent ↔
      w.flag ∈ tags c ∧ (⟨w.folder, w.uid⟩ = reply ∨ ⟨w.folder, w.uid⟩ ∈ sent) := by
  obtain ⟨folder, uid, flag⟩ := w
  simp only [mem_tags, writesOf, List.mem_append, List.mem_map, List.mem_flatMap,
    Option.mem_toList, List.mem_singleton]
  constructor
  · intro h
    rcases h with ((⟨k, hk, rfl, rfl, rfl⟩ | ⟨s, hs, k, hk, rfl, rfl, rfl⟩)
      | ⟨s, hs, rfl, rfl, rfl⟩) | h
    · exact ⟨.inr hk, .inl rfl⟩
    · exact ⟨.inr hk, .inr hs⟩
    · exact ⟨.inl rfl, .inr hs⟩
    · cases h
      exact ⟨.inl rfl, .inl rfl⟩
  · intro h
    obtain ⟨rfl | hk, rfl | hs⟩ := h
    · exact .inr rfl
    · exact .inl (.inr ⟨_, hs, rfl⟩)
    · exact .inl (.inl (.inl ⟨flag, hk, rfl⟩))
    · exact .inl (.inl (.inr ⟨_, hs, flag, hk, rfl⟩))

/-- The marker of a reply. -/
abbrev marker (uid : Int) : Write := ⟨inbox, uid, classifiedFlag⟩

/-- Makes some writes, one after the other. -/
def setFlags : List Write → SessionM Unit
  | [] => pure ()
  | w :: ws => do
    setFlag w.folder w.uid w.flag
    setFlags ws

theorem writeOutcome_eq (c : Category) (reply : Place) (sent : Option Place) :
    writeOutcome c reply sent = setFlags (writesOf c reply sent) := by
  -- Six categories, with a sent message and without.
  cases c <;> cases sent <;>
    simp [writeOutcome, writesOf, setFlags, Category.keyword?]

theorem isFlag_of_mem_writesOf {c : Category} {reply : Place} {sent : Option Place} {w : Write}
    (h : w ∈ writesOf c reply sent) : isFlag w.flag = true := by
  have hc : isFlag classifiedFlag = true := by decide
  have hk : ∀ k ∈ c.keyword?, isFlag k = true := by cases c <;> decide
  rcases mem_tags.1 (mem_writesOf.1 h).1 with hflag | hflag
  · rw [hflag]
    exact hc
  · exact hk w.flag hflag

/-- Writes that begin an outcome and contain the marker of its reply are the whole
outcome. -/
theorem writesOf_complete {c : Category} {reply : Place} {sent : Option Place}
    {written : List Write} {u : Int} (h : written <+: writesOf c reply sent)
    (hsent : ∀ s ∈ sent, s.folder ≠ reply.folder)
    (hm : ⟨reply.folder, u, classifiedFlag⟩ ∈ written) :
    written = writesOf c reply sent ∧ u = reply.uid := by
  have hc : classifiedFlag ∉ c.keyword? := by cases c <;> decide
  unfold writesOf at h ⊢
  -- Either nothing is missing, or the last write is, and no other write is a marker.
  rcases List.prefix_concat_iff.1 h with heq | hinit
  · refine ⟨heq, ?_⟩
    rw [heq] at hm
    rcases (mem_writesOf.1 hm).2 with hp | hs
    · exact congrArg Place.uid hp
    · exact absurd rfl (hsent ⟨reply.folder, u⟩ hs)
  · have hm' := hinit.mem hm
    simp only [List.mem_append, List.mem_map, List.mem_flatMap, Option.mem_toList,
      Write.mk.injEq] at hm'
    rcases hm' with (⟨k, hk, -, -, rfl⟩ | ⟨s, hs, k, hk, hf, -⟩) | ⟨s, hs, hf, -⟩
    · exact absurd hk hc
    · exact absurd hf (hsent s hs)
    · exact absurd hf (hsent s hs)

/-! ## §2. The whole scan. -/

/-- The writes for a task that was judged. -/
def Task.writes (sentFolder : String) (t : Task) (c : Category) : List Write :=
  writesOf c ⟨inbox, t.reply.uid⟩ (t.answers.map fun uid => ⟨sentFolder, uid⟩)

/-- The writes for some judged tasks. -/
def plan (sentFolder : String) (judged : List (Task × Category)) : List Write :=
  judged.flatMap fun x => x.1.writes sentFolder x.2

theorem plan_append (sf : String) (xs ys : List (Task × Category)) :
    plan sf (xs ++ ys) = plan sf xs ++ plan sf ys := List.flatMap_append

theorem mem_plan {sf : String} {judged : List (Task × Category)} {w : Write} :
    w ∈ plan sf judged ↔ ∃ x ∈ judged, w ∈ x.1.writes sf x.2 := List.mem_flatMap

/-- **The marker of a reply comes last**: as soon as it is among the writes that
begin a plan, so is the whole outcome of a task for the reply. -/
theorem exists_of_marker_mem {sf : String} {judged : List (Task × Category)}
    {written : List Write} {u : Int} (hsf : sf ≠ inbox) (h : written <+: plan sf judged)
    (hm : marker u ∈ written) :
    ∃ x ∈ judged, x.1.reply.uid = u ∧ ∀ w ∈ x.1.writes sf x.2, w ∈ written := by
  induction judged generalizing written with
  | nil =>
    rw [List.prefix_nil.1 h] at hm
    cases hm
  | cons x judged ih =>
    have hcons : plan sf (x :: judged) = x.1.writes sf x.2 ++ plan sf judged := rfl
    rw [hcons] at h
    -- Within the outcome of the first task the marker can only be its own, at the end.
    have hx : ∀ v, v <+: x.1.writes sf x.2 → marker u ∈ v →
        v = x.1.writes sf x.2 ∧ u = x.1.reply.uid := by
      intro v hv hmv
      refine writesOf_complete hv ?_ hmv
      intro s hs
      obtain ⟨v, -, rfl⟩ := Option.map_eq_some_iff.1 hs
      exact hsf
    -- The writes end within the first outcome, or go beyond it.
    rcases List.prefix_or_prefix_of_prefix h (List.prefix_append _ _) with hlt | ⟨rest, rfl⟩
    · obtain ⟨rfl, hu⟩ := hx written hlt hm
      exact ⟨x, List.mem_cons_self, hu.symm, fun w hw => hw⟩
    · rcases List.mem_append.1 hm with hm | hm
      · obtain ⟨-, hu⟩ := hx _ List.prefix_rfl hm
        exact ⟨x, List.mem_cons_self, hu.symm, fun w hw => List.mem_append_left _ hw⟩
      · obtain ⟨y, hy, hu, hw⟩ := ih ((List.prefix_append_right_inj _).1 h) hm
        exact ⟨y, List.mem_cons_of_mem _ hy, hu, fun w hw' => List.mem_append_right _ (hw w hw')⟩

/-! ## §3. Carrying out writes. -/

/-- The writes that took effect, and those that were confirmed: all of them, or on a
torn server all but the last. -/
def Confirmed (g : Regime) (written confirmed : List Write) : Prop :=
  written = confirmed ∨ g.torn ∧ ∃ w, written = confirmed ++ [w]

/-- The moment after some more writes, with some of them confirmed. -/
def Moment.wrote (μ : Moment) (written confirmed : List Write) : Moment :=
  { μ with folders := μ.folders.writeAll written, journal := μ.journal ++ confirmed }

@[simp] theorem Moment.wrote_nil (μ : Moment) : μ.wrote [] [] = μ := by simp [Moment.wrote]

theorem Moment.wrote_wrote (μ : Moment) (ws cs vs ds : List Write) :
    (μ.wrote ws cs).wrote vs ds = μ.wrote (ws ++ vs) (cs ++ ds) := by
  simp [Moment.wrote, Folders.writeAll_append]

theorem Confirmed.append {g : Regime} {written confirmed : List Write}
    (h : Confirmed g written confirmed) (ws : List Write) :
    Confirmed g (ws ++ written) (ws ++ confirmed) := by
  rcases h with rfl | ⟨ht, w, rfl⟩
  · exact .inl rfl
  · exact .inr ⟨ht, w, (List.append_assoc _ _ _).symm⟩

namespace Holds

variable {g : Regime} {p : Int} {J : Moment → Prop} {ss : Session} {tr : List Event} {s : Site}
  {μ : Moment}

theorem setFlag {w : Write} (hμ : moment p tr s = μ) (hl : Linked p ss tr s)
    (hflag : isFlag w.flag = true) (hJ : J μ) (hdone : J (μ.wrote [w] [w]))
    (htorn : g.torn → J (μ.wrote [w] [])) :
    Holds g p J (setFlag w.folder w.uid w.flag) (fun x ss' tr' s' => match x with
      | .ok _ => moment p tr' s' = μ.wrote [w] [w] ∧ Linked p ss' tr' s'
      | .error _ => (moment p tr' s' = μ ∨ g.torn ∧ moment p tr' s' = μ.wrote [w] []) ∧
          Trouble p tr') ss tr s := by
  unfold Imap.setFlag store checkFlag
  rw [if_pos hflag]
  show Holds g p J (Imap.select w.folder false >>= _) _ ss tr s
  refine bind (select hμ hJ hl) ?_ fun e ss tr s _ h => ⟨.inl h.1, h.2⟩
  intro _ ss₁ tr₁ s₁ hJ₁ h
  obtain ⟨rfl, hl₁, hsel, -, -⟩ := h
  -- A STORE is no page and no judgement: only folders and journal can differ.
  have hm : ∀ r s', moment p (tr₁ ++ [⟨.imap (.store w.uid .add w.flag), r⟩]) s'
      = { moment p tr₁ s₁ with folders := s'.folders, journal := s'.journal } := by
    intro r s'
    rw [moment_concat]
    simp [moment, pageIn, judgementIn]
  refine command_bind hJ (fun r s' items hr ha => ?_) fun r s' e hr ha => ?_
  · have hr' := hr.2
    simp only [Regime.Serves, ha] at hr'
    obtain ⟨-, rfl⟩ := hr'
    have hdone' := hm r ((s₁.flag w.uid .add w.flag).note w.uid .add w.flag)
    have hlink := hl₁.concat ⟨.imap (.store w.uid .add w.flag), r⟩
    simp only [Site.flag, Site.note, hsel] at hdone' ⊢
    change moment p _ _ = (moment p tr₁ s₁).wrote [w] [w] at hdone'
    refine pure (hdone' ▸ hdone) ⟨hdone', hlink.length, hlink.host, hlink.named, ?_⟩
    intro x hx
    rw [← hsel]
    exact hl₁.selected x hx
  · have hr' := hr.2
    have ht : Trouble p (tr₁ ++ [⟨.imap (.store w.uid .add w.flag), r⟩]) :=
      Trouble.last (by simp [Smooth, ha])
    simp only [Regime.Serves, ha] at hr'
    -- A STORE that failed had no effect, or the server is torn and it had one.
    rcases hr' with rfl | ⟨htear, rfl⟩
    · have hsame := hm r s'
      exact ⟨hsame ▸ hJ, .inl hsame, ht⟩
    · have htorn' := hm r (s₁.flag w.uid .add w.flag)
      simp only [Site.flag, hsel] at htorn' ⊢
      have hwrote : { moment p tr₁ s₁ with
          folders := s₁.folders.change w.folder w.uid (Kept.change w.flag .add)
          journal := s₁.journal } = (moment p tr₁ s₁).wrote [w] [] := by
        simp [Moment.wrote, moment, Folders.writeAll, Folders.write]
      rw [hwrote] at htorn'
      exact ⟨htorn' ▸ htorn htear, .inr ⟨htear, htorn'⟩, ht⟩

/-- **Writes are made in their order**, and no more than the last of them is in doubt. -/
theorem setFlags {ws : List Write} (hμ : moment p tr s = μ) (hl : Linked p ss tr s)
    (hflag : ∀ w ∈ ws, isFlag w.flag = true)
    (hJ : ∀ written confirmed, written <+: ws → Confirmed g written confirmed →
      J (μ.wrote written confirmed)) :
    Holds g p J (setFlags ws) (fun x ss' tr' s' => match x with
      | .ok _ => moment p tr' s' = μ.wrote ws ws ∧ Linked p ss' tr' s'
      | .error _ => (∃ written confirmed, moment p tr' s' = μ.wrote written confirmed ∧
          written <+: ws ∧ Confirmed g written confirmed ∧ confirmed.length < ws.length) ∧
          Trouble p tr') ss tr s := by
  induction ws generalizing μ ss tr s with
  | nil =>
    have hJμ := hJ [] [] List.prefix_rfl (.inl rfl)
    rw [Moment.wrote_nil, ← hμ] at hJμ
    exact pure hJμ ⟨by rw [Moment.wrote_nil, hμ], hl⟩
  | cons w ws ih =>
    have hstart : [w] <+: w :: ws := ⟨ws, rfl⟩
    -- The first write is confirmed, and then the others follow; or it fails.
    refine bind (setFlag hμ hl (hflag w List.mem_cons_self) ?_ ?_ ?_) ?_ ?_
    · simpa using hJ [] [] List.nil_prefix (.inl rfl)
    · exact hJ [w] [w] hstart (.inl rfl)
    · exact fun ht => hJ [w] [] hstart (.inr ⟨ht, w, rfl⟩)
    · intro _ ss₁ tr₁ s₁ _ h
      obtain ⟨hμ₁, hl₁⟩ := h
      refine mono (ih hμ₁ hl₁ (fun v hv => hflag v (List.mem_cons_of_mem _ hv)) ?_) ?_
      · intro written confirmed hw hc
        rw [Moment.wrote_wrote]
        exact hJ _ _ ((List.prefix_append_right_inj [w]).2 hw) (hc.append [w])
      · intro x ss₂ tr₂ s₂ _ h
        rcases x with e | done
        · obtain ⟨⟨written, confirmed, hμ₂, hw, hc, hlt⟩, ht⟩ := h
          rw [Moment.wrote_wrote] at hμ₂
          exact ⟨⟨_, _, hμ₂, (List.prefix_append_right_inj [w]).2 hw, hc.append [w],
            by simpa using hlt⟩, ht⟩
        · rw [Moment.wrote_wrote] at h
          exact h
    · intro e ss₁ tr₁ s₁ _ h
      obtain ⟨hμ₁ | ⟨htear, hμ₁⟩, ht⟩ := h
      · exact ⟨⟨[], [], by rw [hμ₁, Moment.wrote_nil], List.nil_prefix, .inl rfl, by simp⟩, ht⟩
      · exact ⟨⟨[w], [], hμ₁, hstart, .inr ⟨htear, w, rfl⟩, by simp⟩, ht⟩

end Holds

end Mailroom.Scan
