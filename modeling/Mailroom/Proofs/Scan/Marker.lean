import Mailroom.Proofs.Imap.Reference
import Mailroom.Proofs.Scan.Pairing
/-!
  Mailroom.Proofs.Scan.Marker
  ────────────────────────────────
  **THE MARKER OF A REPLY SAYS THAT ITS OUTCOME IS WRITTEN.**

  Whatever fails during a scan, and whatever a failing STORE did: a reply that got
  its marker was judged, and everything that its category calls for is written, to
  the reply itself and to the sent message that it answers.

      marker_last — at every moment of every run of the scan of an account
-/
namespace Mailroom.Scan

open Mailroom.Imap Mailroom.Mail Mailroom.Reply Mailroom.Thread

/-- A task was judged: the category is that of the judgement in its place. -/
def JudgedTo (e : Engine) (μ : Moment) (t : Task) (c : Category) : Prop :=
  ∃ i : Nat, (tasksIn μ.pages)[i]? = some t ∧
    μ.judgements[i]? = some (t.question e.classifier, c)

/-- The messages of a UID in a folder, of which there are some, carry the keyword of a
category, if it has one, and the marker. -/
def Tagged (fs : Folders) (folder : String) (uid : Int) (c : Category) : Prop :=
  (∃ k ∈ fs folder, k.uid = uid) ∧ ∀ k ∈ fs folder, k.uid = uid →
    (∀ keyword ∈ c.keyword?, keyword ∈ k.flags) ∧ classifiedFlag ∈ k.flags

section

variable {e : Engine} {g : Regime} {s₀ : Site} {judged : List (Task × Category)}
  {written confirmed : List Write} {μ : Moment}

theorem Course.judgedTo (h : Course e g s₀ judged written confirmed μ) {x : Task × Category}
    (hx : x ∈ judged) : JudgedTo e μ x.1 x.2 := by
  obtain ⟨i, hi⟩ := List.mem_iff_getElem?.1 hx
  refine ⟨i, ?_, ?_⟩
  · obtain ⟨hlt, rfl⟩ := List.getElem?_eq_some_iff.1 hi
    have hfst := List.prefix_iff_getElem?.1 h.tasks i (by rwa [List.length_map])
    rwa [List.getElem_map] at hfst
  · rw [h.judgements]
    simp [hi]

/-- The writes to a message of a folder, when they include the outcome for it, leave
it tagged. -/
theorem tagged_writeAll {fs : Folders} {folder : String} {uid : Int} {c : Category}
    (hsome : ∃ k ∈ fs folder, k.uid = uid)
    (hall : ∀ flag ∈ tags c, ⟨folder, uid, flag⟩ ∈ written) :
    Tagged (fs.writeAll written) folder uid c := by
  refine ⟨?_, ?_⟩
  · obtain ⟨k, hk, hu⟩ := hsome
    exact ⟨_, Folders.mem_writeAll.2 ⟨k, hk, rfl⟩, hu⟩
  · intro k' hk' hu
    obtain ⟨k, -, rfl⟩ := Folders.mem_writeAll.1 hk'
    rw [Kept.add_uid] at hu
    simp only [Kept.add_flags, Finset.mem_union, mem_flagsSet, hu]
    exact ⟨fun keyword hkey => .inr (hall keyword (mem_tags.2 (.inr hkey))),
      .inr (hall _ (mem_tags.2 (.inl rfl)))⟩

end

/-- **The marker of a reply comes last.**  A message of the inbox that lacked the
marker when the scan started and carries it at some moment was judged in this scan,
and is tagged with the category; so is the sent message with which it was paired. -/
theorem marker_last (e : Engine) (g : Regime) (entry : Directory.Entry) {s₀ s : Site}
    {tr : List Event} {d : Dialogue Progress} (hsent : g.sent ≠ inbox)
    (hunique : ((s₀.folders inbox).map (·.uid)).Nodup)
    (hrun : Dialogue.Reaches g.law (e.scanEntry entry) s₀ tr d s) {k k' : Kept}
    (hk : k ∈ s₀.folders inbox) (hlacks : classifiedFlag ∉ k.flags)
    (hk' : k' ∈ s.folders inbox) (huid : k'.uid = k.uid) (hcarries : classifiedFlag ∈ k'.flags) :
    ∃ t c, JudgedTo e (moment e.transport.previewLength tr s) t c ∧
      Snapshot e.transport.previewLength k t.reply ∧ Tagged s.folders inbox k.uid c ∧
      ∀ x ∈ (matchingIn (pages e.transport.previewLength tr)).found, x.inbound = k.uid →
        Tagged s.folders g.sent x.outbound c := by
  obtain ⟨judged, written, confirmed, h⟩ := ((scanEntry_keeps e g entry s₀).reaches hrun).now
  rw [List.nil_append] at h
  have hfolders : s.folders = s₀.folders.writeAll written := h.folders
  rw [hfolders] at hk' ⊢
  -- The marker is one of the writes, as the message lacked it before.
  have hmark : marker k.uid ∈ written := by
    obtain ⟨k₀, hk₀, rfl⟩ := Folders.mem_writeAll.1 hk'
    obtain rfl : k₀ = k := List.inj_on_of_nodup_map hunique hk₀ hk huid
    simp only [Kept.add_flags, Finset.mem_union, mem_flagsSet] at hcarries
    exact hcarries.resolve_left hlacks
  obtain ⟨x, hx, hxu, hall⟩ := exists_of_marker_mem hsent h.begun hmark
  obtain ⟨hseen, m, hm, hxm⟩ := h.exists_reply hx
  have hmu : m.uid = k.uid := by rw [← hxu, hxm]; rfl
  -- The whole outcome of that task is written, to the reply and to its sent message.
  refine ⟨x.1, x.2, h.judgedTo hx, ?_, ?_, ?_⟩
  · obtain ⟨k₀, hk₀, hsnap⟩ := hseen.replies.truthful m hm
    obtain rfl : k₀ = k := List.inj_on_of_nodup_map hunique hk₀ hk (hsnap.uid_eq.symm.trans hmu)
    rw [hxm]
    exact hsnap
  · refine tagged_writeAll ⟨k, hk, rfl⟩ fun flag hflag => hall _ (mem_writesOf.2 ⟨hflag, .inl ?_⟩)
    rw [hxu]
  · intro y hy hyu
    -- The pair is that of the judged reply, as no other reply has its UID.
    obtain ⟨m', hm', n, hn, rfl⟩ := mem_found.1 hy
    obtain rfl : m' = m :=
      List.inj_on_of_nodup_map hseen.replies.nodup hm' hm (hyu.trans hmu.symm)
    have hanswers : x.1.answers = some n.uid := by
      rw [hxm]
      exact congrArg (Option.map (·.uid)) hn
    have hnmem : n ∈ (moment e.transport.previewLength tr s).pages.getD 1 [] :=
      List.mem_of_find?_eq_some hn
    obtain ⟨l, hl, hlsnap⟩ := hseen.outbound.truthful n hnmem
    refine tagged_writeAll ⟨l, hl, hlsnap.uid_eq.symm⟩ fun flag hflag =>
      hall _ (mem_writesOf.2 ⟨hflag, .inr ?_⟩)
    rw [hanswers]
    rfl

/-! ## What is counted. -/

section

variable {e : Engine} {g : Regime} {s₀ : Site} {judged counted : List (Task × Category)}
  {written confirmed : List Write} {μ : Moment} {pr : Progress}

theorem Ended.prefix_judged (h : Ended e g s₀ judged written confirmed counted μ pr) :
    counted <+: judged := by
  rcases h.counts with ⟨rfl, -⟩ | ⟨-, -, x, rfl⟩
  · exact List.prefix_rfl
  · exact List.prefix_append _ _

/-- The outcomes that are counted were confirmed to the end. -/
theorem Ended.plan_counted (h : Ended e g s₀ judged written confirmed counted μ pr) :
    plan g.sent counted <+: confirmed := by
  rcases h.counts with ⟨rfl, hc⟩ | ⟨-, -, x, hx⟩
  · rw [hc]
  · have hsettled := h.settled
    rwa [hx, List.dropLast_concat] at hsettled

/-- **The replies counted are those whose marker was confirmed.** -/
theorem Ended.marker_mem_iff (h : Ended e g s₀ judged written confirmed counted μ pr)
    (hsent : g.sent ≠ inbox) {u : Int} :
    marker u ∈ confirmed ↔ ∃ x ∈ counted, x.1.reply.uid = u := by
  have hbegun : confirmed <+: plan g.sent judged := by
    rcases h.confirms with hw | ⟨-, w, hw⟩
    · exact hw ▸ h.begun
    · exact (hw ▸ List.prefix_append confirmed [w]).trans h.begun
  constructor
  · intro hm
    rcases h.counts with ⟨rfl, -⟩ | ⟨-, hlt, x, rfl⟩
    · obtain ⟨x, hx, hu, -⟩ := exists_of_marker_mem hsent hbegun hm
      exact ⟨x, hx, hu⟩
    · -- The marker of the last task is not confirmed, as it would be the end of the plan.
      obtain ⟨rest, rfl⟩ := h.plan_counted
      rcases List.mem_append.1 hm with hm | hm
      · obtain ⟨y, hy, hu, -⟩ := exists_of_marker_mem hsent List.prefix_rfl hm
        exact ⟨y, hy, hu⟩
      · rw [plan_append, List.prefix_append_right_inj] at hbegun
        have hrest : rest <+: x.1.writes g.sent x.2 := by simpa [plan] using hbegun
        have hwhole := (writesOf_complete hrest (fun s hs => ?_) hm).1
        · rw [hwhole, plan_append] at hlt
          simp [plan, Task.writes] at hlt
        · obtain ⟨v, -, rfl⟩ := Option.map_eq_some_iff.1 hs
          exact hsent
  · intro h
    obtain ⟨x, hx, rfl⟩ := h
    exact h.plan_counted.mem
      (mem_plan.2 ⟨x, hx, mem_writesOf.2 ⟨mem_tags.2 (.inl rfl), .inl rfl⟩⟩)

end

/-! ## A mailbox with one reply. -/

namespace Sample

/-- A letter that was sent. -/
def offer : Kept where
  uid := 7
  flags := ∅
  raw := octets "From: me@x.io\r\nTo: you@y.io\r\nSubject: Offer\r\n\r\nHello"

/-- The reply to it. -/
def reply : Kept where
  uid := 3
  flags := {"\\Seen"}
  raw := octets "From: you@y.io\r\nTo: me@x.io\r\nSubject: Re: Offer\r\n\r\nYes"

/-- A server with the letter and the reply. -/
def site : Site where
  folders := fun n => if n = inbox then [reply] else if n = "Sent" then [offer] else []

/-- An answer of the classifier. -/
def answering (category : String) : Except String (List Block) :=
  .ok [.toolCall toolName (.object [("category", .text category)])]

/-- A server that keeps the law, with a classifier that finds every reply
interested. -/
def server : Reference where
  sent := "Sent"
  record := .object [("id", .int 1), ("email", .text "me@x.io")]
  names := [classifiedFlag, "interested", "\\Seen"]
  judge := fun _ => answering "interested"

def engine : Engine where
  directory := { key := "key" }
  transport := {}
  classifier := { model := "model" }

def entry : Directory.Entry where
  id := 1
  email := .text "me@x.io"
  firstName := .null
  lastName := .null
  status := .null
  domain := .null

/-- The scan of the mailbox. -/
def scan : Dialogue Progress := engine.scanEntry entry

end Sample

open Sample in
theorem marker_last_sample :
    ∃ t c, JudgedTo engine
        (moment 200 (scan.trace server.answer site) (scan.run server.answer site).2) t c ∧
      Snapshot 200 reply t.reply ∧ Tagged (scan.run server.answer site).2.folders inbox 3 c ∧
      ∀ x ∈ (matchingIn (pages 200 (scan.trace server.answer site))).found, x.inbound = 3 →
        Tagged (scan.run server.answer site).2.folders "Sent" x.outbound c :=
  @marker_last engine server.regime entry site _ _ _ (by decide) (by decide)
    (Dialogue.ends_run server.lawful scan site) reply (reply.add {"interested", classifiedFlag})
    (by decide +kernel) (by decide +kernel) (by decide +kernel) rfl (by decide +kernel)

end Mailroom.Scan
