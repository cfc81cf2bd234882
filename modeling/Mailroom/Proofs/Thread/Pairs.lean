import Mathlib.Data.List.FinRange
import Mathlib.Data.List.Infix
import Mathlib.Order.Bounds.Basic
import Mailroom.Thread.Matching
/-!
  Mailroom.Proofs.Thread.Pairs
  ────────────────────────────────
  **EVERY REPLY IS PAIRED WITH THE FIRST MESSAGE IT ANSWERS, OR WITH NONE.**

  The partner of a reply is the least place, among the sent messages, of one that it
  answers.  Replies are told apart by their places as well, so that two of one UID are
  two replies, and a `Pairing` says where the reply at each place goes.  Sent messages
  that come later change no partner.

      partner?_eq_some_iff, partner?_eq_none_iff — partners are first answers
      partner?_append                            — later messages change no partner
      matching_pairing                           — what becomes of a whole inbox
-/
namespace Mailroom.Thread

open Mailroom.Mail Mailroom.Text

variable {reply sent : Message} {outbound : List Message}

/-! ## §1. Answers. -/

theorem occursIn_iff_infix {needle hay : List Char} :
    occursIn needle hay = true ↔ needle <:+: hay := by
  induction hay with
  | nil => rw [occursIn, List.isEmpty_iff, List.infix_nil]
  | cons c hay ih =>
    rw [occursIn, Bool.or_eq_true, List.isPrefixOf_iff_prefix, ih, List.infix_cons_iff]

/-- Equal normalized subjects, and the address of the reply inside the To field. -/
def Corresponds (reply sent : Message) : Prop :=
  normalize sent.subject = normalize reply.subject ∧
    (bareAddress reply.sender).toList <:+: (lower sent.addressees).toList

/-- `reply`, from an address that is not empty, answers `sent`. -/
def Answers (reply sent : Message) : Prop :=
  bareAddress reply.sender ≠ "" ∧ Corresponds reply sent

theorem answers_iff : answers reply sent = true ↔ Answers reply sent := by
  simp only [answers, contains, Bool.and_eq_true, bne_iff_ne, beq_iff_eq, occursIn_iff_infix,
    Answers, Corresponds, and_assoc]

/-! ## §2. Partners. -/

/-- The place of the first sent message that a reply answers. -/
def partner? (outbound : List Message) (reply : Message) : Option (Fin outbound.length) :=
  outbound.findFinIdx? (answers reply)

theorem answered?_eq_partner? (outbound : List Message) (reply : Message) :
    answered? outbound reply = (partner? outbound reply).map fun j => outbound[j] :=
  List.find?_eq_map_findFinIdx?_getElem

/-- **The partner is the first** of the messages that a reply answers. -/
theorem partner?_eq_some_iff {j : Fin outbound.length} :
    partner? outbound reply = some j ↔ IsLeast {j | Answers reply outbound[j]} j := by
  rw [partner?, List.findFinIdx?_eq_some_iff, answers_iff]
  refine and_congr Iff.rfl ⟨fun h i hi => ?_, fun h i hi hans => ?_⟩
  · by_contra hlt
    exact h i (not_le.1 hlt) (answers_iff.2 hi)
  · exact absurd (h (answers_iff.1 hans)) (not_le.2 hi)

theorem partner?_eq_none_iff :
    partner? outbound reply = none ↔
      bareAddress reply.sender = "" ∨
        ¬ ∃ j : Fin outbound.length, Corresponds reply outbound[j] := by
  rw [partner?, List.findFinIdx?_eq_none_iff]
  constructor
  · intro h
    refine or_iff_not_imp_left.2 fun hname ⟨j, hj⟩ => ?_
    exact h outbound[j] (List.getElem_mem _) (answers_iff.2 ⟨hname, hj⟩)
  · rintro (hname | hnone) sent hsent hans
    · exact (answers_iff.1 hans).1 hname
    · obtain ⟨i, hi, rfl⟩ := List.mem_iff_getElem.1 hsent
      exact hnone ⟨⟨i, hi⟩, (answers_iff.1 hans).2⟩

/-- **Messages that are sent later change no partner.** -/
theorem partner?_append {j : Fin outbound.length} (h : partner? outbound reply = some j)
    (later : List Message) :
    partner? (outbound ++ later) reply
      = some (j.castLE (List.length_append ▸ Nat.le_add_right _ _)) := by
  rw [partner?] at h ⊢
  rw [List.findFinIdx?_append, h]
  rfl

/-! ## §3. A whole inbox. -/

/-- What becomes of the replies, place by place: `partner` gives the least place of a
sent message that the reply answers, the replies that have one are found with it and the
others are unmatched, both in the order of their places. -/
structure Pairing (inbound outbound : List Message)
    (partner : Fin inbound.length → Option (Fin outbound.length)) : Prop where
  first : ∀ i j, partner i = some j ↔ IsLeast {j | Answers inbound[i] outbound[j]} j
  none : ∀ i, partner i = none ↔ bareAddress inbound[i].sender = "" ∨
    ¬ ∃ j : Fin outbound.length, Corresponds inbound[i] outbound[j]
  found : (matching inbound outbound).found = (List.finRange inbound.length).filterMap fun i =>
    (partner i).map fun j => ⟨inbound[i].uid, outbound[j].uid⟩
  unmatched : (matching inbound outbound).unmatched =
    ((List.finRange inbound.length).filter fun i => (partner i).isNone).map fun i => inbound[i].uid

theorem pairing_partner? (inbound outbound : List Message) :
    Pairing inbound outbound fun i => partner? outbound inbound[i] where
  first _ _ := partner?_eq_some_iff
  none _ := partner?_eq_none_iff
  found := by
    -- The inbox is the list of what stands at its places.
    conv_lhs => rw [matching, ← List.map_getElem_finRange inbound]
    rw [List.filterMap_map]
    simp [answered?_eq_partner?, Function.comp_def]
  unmatched := by
    conv_lhs => rw [matching, ← List.map_getElem_finRange inbound]
    rw [List.filter_map, List.map_map]
    simp [answered?_eq_partner?, Function.comp_def]

theorem filterMap_sublist_filterMap {α β : Type} {f g : α → Option β}
    (h : ∀ x y, f x = some y → g x = some y) (xs : List α) :
    (xs.filterMap f).Sublist (xs.filterMap g) := by
  induction xs with
  | nil => exact .slnil
  | cons x xs ih =>
    cases hx : f x with
    | some y =>
      rw [List.filterMap_cons_some hx, List.filterMap_cons_some (h x y hx)]
      exact ih.cons_cons y
    | none =>
      rw [List.filterMap_cons_none hx]
      exact ih.trans ((List.sublist_cons_self x xs).filterMap g)

/-- **Matching gives every reply its first answer.**  Each place of the inbox is found or
unmatched, and messages that are sent later change nothing of what was found. -/
theorem matching_pairing (inbound outbound : List Message) :
    ∃ partner, Pairing inbound outbound partner ∧
      (matching inbound outbound).found.length + (matching inbound outbound).unmatched.length
        = inbound.length ∧
      ∀ later, ∃ partner', Pairing inbound (outbound ++ later) partner' ∧
        (∀ i j, partner i = some j → ∃ j', partner' i = some j' ∧ j'.val = j.val) ∧
        (matching inbound outbound).found.Sublist (matching inbound (outbound ++ later)).found := by
  refine ⟨_, pairing_partner? inbound outbound, ?_, fun later =>
    ⟨_, pairing_partner? inbound (outbound ++ later), ?_, ?_⟩⟩
  · -- A reply counts on one side or on the other.
    have hnone (m : Message) : decide (¬ (answered? outbound m).isSome = true)
        = (answered? outbound m).isNone := by
      cases answered? outbound m <;> rfl
    have hsplit := List.length_eq_countP_add_countP (fun m => (answered? outbound m).isSome)
      (l := inbound)
    simp only [hnone] at hsplit
    simpa [matching, List.length_filterMap_eq_countP, List.countP_eq_length_filter]
      using hsplit.symm
  · intro i j hij
    exact ⟨_, partner?_append hij later, rfl⟩
  · -- What was found is found again; replies without a partner may find one now.
    refine filterMap_sublist_filterMap (fun m x hx => ?_) inbound
    rw [answered?_eq_partner?] at hx ⊢
    simp only [Option.map_map, Option.map_eq_some_iff] at hx ⊢
    obtain ⟨j, hj, rfl⟩ := hx
    refine ⟨_, partner?_append hj later, ?_⟩
    simp [List.getElem_append_left]

/-- An inbox with one reply, and two sent messages, the second of which it answers. -/
def offerReplies : List Message := [{ uid := 0, subject := "Re: Offer", sender := "Jo <JO@x.io>" }]

/-- The sent messages of `offerReplies`. -/
def sentOffers : List Message :=
  [{ uid := 5, subject := "Other", addressees := "jo@x.io" },
    { uid := 6, subject := "Offer", addressees := "Al <al@x.io>, Jo <jo@X.io>" }]

/-- The reply has the second message for its partner, also when more are sent. -/
theorem matching_pairing_offer :
    ∃ partner, Pairing offerReplies sentOffers partner ∧
      partner ⟨0, by decide⟩ = some ⟨1, by decide⟩ ∧
      ∃ partner', Pairing offerReplies (sentOffers ++ sentOffers) partner' ∧
        ∃ j, partner' ⟨0, by decide⟩ = some j ∧ j.val = 1 := by
  obtain ⟨partner, hpairing, -, hlater⟩ := matching_pairing offerReplies sentOffers
  obtain ⟨partner', hpairing', hkept, -⟩ := hlater sentOffers
  have hfirst : partner? sentOffers offerReplies[0] = some ⟨1, by decide⟩ := by decide +kernel
  have hsecond := (hpairing.first ⟨0, by decide⟩ _).2 (partner?_eq_some_iff.1 hfirst)
  exact ⟨partner, hpairing, hsecond, partner', hpairing', hkept _ _ hsecond⟩

end Mailroom.Thread
