import Mathlib.Data.Bool.AllAny
import Mailroom.Mail.Snapshot
import Mailroom.Proofs.Thread.Markers
import Mailroom.Proofs.Thread.Pairs
/-!
  Mailroom.Proofs.Thread.Reply
  ────────────────────────────────
  **WHEN A REPLY FINDS THE MESSAGE IT ANSWERS.**

  A reply has the subject of the message it answers behind `Re: `.  Trimming goes before
  the search for markers, in the reply as in the message, and the two do not get in each
  other's way: with or without the marker, the same is left to compare.  But a message
  with a blank subject is shown as having none, in words that are then compared as if they
  were its subject, while nothing is left of the subject of its reply.

      normalize_trim_reply — a reply and what it answers compare equal
      normalize_reply_iff  — as long as the subject is not blank
      reply_finds_sent     — and then the reply is paired with the message
-/
namespace Mailroom.Thread

open Mailroom.Mail Mailroom.Mime Mailroom.Text

/-! ## §1. A marker in front of a subject. -/

section

variable {cs blanks : List Char} {s : String}

theorem isMarker_re (h : ∀ c ∈ blanks, isBlank c = true) : IsMarker ("Re:".toList ++ blanks) :=
  @IsMarker.mk [] "Re".toList [] blanks nofun (by decide) nofun h

/-- A text that is trimmed stays so behind a marker. -/
theorem trimmed_reply (h : Trimmed isTrimmed cs) (hne : cs ≠ []) :
    Trimmed isTrimmed ("Re:".toList ++ blanks ++ cs) where
  first := by
    rintro c ⟨⟩
    decide
  last := by
    rw [List.getLast?_append_of_ne_nil _ hne]
    exact h.last

/-- Behind a blank text nothing is left but the marker. -/
theorem trimWhile_reply_blank (h : trimWhile isTrimmed cs = []) :
    trimWhile isTrimmed ("Re: ".toList ++ cs) = "Re:".toList := by
  obtain ⟨pre, post, hcs, hpre, hpost⟩ := trimWhile_append isTrimmed cs
  have hall : ∀ c ∈ ' ' :: cs, isTrimmed c = true := by
    intro c hc
    rw [hcs, h, List.append_nil, List.mem_cons, List.mem_append] at hc
    rcases hc with rfl | hc | hc
    · decide
    · exact hpre c hc
    · exact hpost c hc
  show trimWhile isTrimmed ("Re:".toList ++ ' ' :: cs) = _
  rw [trimWhile_append_right hall]
  decide

/-- Any other text is trimmed behind the marker, but the white space between them stays. -/
theorem trimWhile_reply (hsep : ∀ c ∈ cs, isSeparator c = false)
    (hne : trimWhile isTrimmed cs ≠ []) :
    ∃ blanks, (∀ c ∈ blanks, isBlank c = true) ∧
      trimWhile isTrimmed ("Re: ".toList ++ cs)
        = "Re:".toList ++ blanks ++ trimWhile isTrimmed cs := by
  obtain ⟨pre, post, hcs, hpre, hpost⟩ := trimWhile_append isTrimmed cs
  refine ⟨' ' :: pre, ?_, ?_⟩
  · intro c hc
    rcases List.mem_cons.1 hc with rfl | hc
    · decide
    · -- What trimming takes here is white space, and so the marker takes it.
      have htrimmed := hpre c hc
      have hmem : c ∈ cs := by
        rw [hcs, List.append_assoc]
        exact List.mem_append_left _ hc
      rwa [isTrimmed, hsep c hmem, Bool.or_false] at htrimmed
  · conv_lhs => rw [hcs]
    rw [← List.append_assoc, ← List.append_assoc, trimWhile_append_right hpost]
    exact (trimmed_reply (trimmed_trimWhile _ _) hne).trimWhile_eq

/-- **What is left to compare is the same behind a marker**, whether the marker takes the
white space in front of the text or trimming does. -/
theorem trimWhile_stripMarkers_reply (hsep : ∀ c ∈ cs, isSeparator c = false) :
    trimWhile isTrimmed (stripMarkers (trimWhile isTrimmed ("Re: ".toList ++ cs)))
      = trimWhile isTrimmed (stripMarkers (trimWhile isTrimmed cs)) := by
  by_cases hblank : trimWhile isTrimmed cs = []
  · have hchain : Chain ("Re:".toList ++ []) := .cons (isMarker_re nofun) .nil
    rw [trimWhile_reply_blank hblank, hblank]
    exact trimWhile_stripMarkers_chain hchain []
  · obtain ⟨blanks, hblanks, htrim⟩ := trimWhile_reply hsep hblank
    rw [htrim, stripMarkers_append (isMarker_re hblanks), trimWhile_stripMarkers_skipBlanks]

/-- **A reply and what it answers compare equal.** -/
theorem normalize_trim_reply (hsep : ∀ c ∈ s.toList, isSeparator c = false) :
    normalize (trim ("Re: " ++ s)) = normalize (trim s) := by
  apply String.toList_injective
  rw [toList_normalize, toList_normalize, trim, trim, String.toList_ofList, String.toList_ofList,
    String.toList_append, trimWhile_stripMarkers_reply hsep]

end

/-! ## §2. Subjects as they are shown. -/

section

variable {header header' : Option Glyphs}

/-- The text of a Subject header, as it is decoded. -/
def subjectText (header : Option Glyphs) : String := shown (unstructured (header.getD []))

theorem subjectOf_eq (header : Option Glyphs) : subjectOf header =
    if trim (subjectText header) = "" then noSubject else trim (subjectText header) := by
  rw [subjectOf, ← subjectText]
  by_cases h : trim (subjectText header) = "" <;> simp [h]

/-- A text behind a marker is not blank. -/
theorem trim_reply_ne (s : String) : trim ("Re: " ++ s) ≠ "" := by
  intro h
  have hnil : trimWhile isTrimmed ([] ++ 'R' :: ("e: ".toList ++ s.toList)) = [] := by
    rw [← String.toList_inj, trim, String.toList_ofList, String.toList_append] at h
    exact h
  rw [trimWhile_around (by decide)] at hnil
  cases hnil

/-- The subject of a reply is shown as it is, trimmed; that of the message may be blank. -/
theorem normalize_reply_iff (hre : subjectText header' = "Re: " ++ subjectText header)
    (hsep : ∀ c ∈ (subjectText header).toList, isSeparator c = false) :
    normalize (subjectOf header') = normalize (subjectOf header)
      ↔ trim (subjectText header) ≠ "" := by
  rw [subjectOf_eq, hre, if_neg (trim_reply_ne _), normalize_trim_reply hsep, subjectOf_eq]
  split
  next hblank =>
    have hnothing : normalize "" ≠ normalize noSubject := by decide +kernel
    rw [hblank]
    exact iff_of_false hnothing fun h => h rfl
  next hsubject => exact iff_of_true rfl hsubject

/-! ## §3. Finding the message. -/

/-- The only message among those sent that a reply answers is the one it is paired with. -/
theorem mem_found {reply sent : Message} {inbound outbound : List Message}
    (hreply : reply ∈ inbound) (hsent : sent ∈ outbound) (hanswers : answers reply sent = true)
    (honly : ∀ m ∈ outbound, answers reply m = true → m = sent) :
    ⟨reply.uid, sent.uid⟩ ∈ (matching inbound outbound).found := by
  have hfound : answered? outbound reply = some sent := by
    cases hfind : answered? outbound reply with
    | none => exact absurd hanswers (List.find?_eq_none.1 hfind sent hsent)
    | some m => rw [honly m (List.mem_of_find?_eq_some hfind) (List.find?_some hfind)]
  exact List.mem_filterMap.2 ⟨reply, hreply, by rw [hfound, Option.map_some]⟩

/-- **When a reply finds the message it answers.**  Its subject is the other behind `Re: `;
they compare equal exactly when the subject of the message is not blank, and then the
reply is paired with the message, if its address stands in the To field and no other
message is answered by it. -/
theorem reply_finds_sent (hre : subjectText header' = "Re: " ++ subjectText header)
    (hsep : ∀ c ∈ (subjectText header).toList, isSeparator c = false) :
    (normalize (subjectOf header') = normalize (subjectOf header)
      ↔ trim (subjectText header) ≠ "") ∧
    ∀ (reply sent : Message) (inbound outbound : List Message), reply.subject = subjectOf header' →
      sent.subject = subjectOf header → bareAddress reply.sender ≠ "" →
      contains (lower sent.addressees) (bareAddress reply.sender) = true →
      reply ∈ inbound → sent ∈ outbound →
      (∀ m ∈ outbound, answers reply m = true → m = sent) →
      trim (subjectText header) ≠ "" →
      ⟨reply.uid, sent.uid⟩ ∈ (matching inbound outbound).found := by
  have hiff := normalize_reply_iff hre hsep
  refine ⟨hiff, ?_⟩
  intro reply sent inbound outbound hreply hsent hname hto hin hout honly hsubject
  refine mem_found hin hout ?_ honly
  rw [answers, hreply, hsent, hiff.2 hsubject, hto, bne_iff_ne.2 hname, beq_self_eq_true]
  rfl

end

/-- A message with white space around its subject. -/
def greeting : Message :=
  { uid := 6, subject := subjectOf (some (glyphs " Hello ")), addressees := "Jo <jo@X.io>" }

/-- The reply to `greeting`. -/
def greetingReply : Message :=
  { uid := 0, subject := subjectOf (some (glyphs "Re:  Hello ")), sender := "Jo <JO@x.io>" }

theorem reply_finds_greeting :
    normalize greetingReply.subject = normalize greeting.subject ∧
      ⟨0, 6⟩ ∈ (matching [greetingReply] [greeting]).found := by
  have hre : subjectText (some (glyphs "Re:  Hello "))
      = "Re: " ++ subjectText (some (glyphs " Hello ")) := by decide +kernel
  have hsep : ∀ c ∈ (subjectText (some (glyphs " Hello "))).toList, isSeparator c = false :=
    List.all_iff_forall_prop.1 (by decide +kernel)
  have hsubject : trim (subjectText (some (glyphs " Hello "))) ≠ "" := by decide +kernel
  obtain ⟨hiff, hfound⟩ := reply_finds_sent hre hsep
  exact ⟨hiff.2 hsubject, hfound greetingReply greeting [greetingReply] [greeting] rfl rfl
    (by decide +kernel) (by decide +kernel) (List.mem_singleton_self _) (List.mem_singleton_self _)
    (fun m hm _ => List.mem_singleton.1 hm) hsubject⟩

/-- A message without a subject. -/
def unnamed : Message := { uid := 2, subject := subjectOf none, addressees := "a@x.com" }

/-- The reply to `unnamed`. -/
def unnamedReply : Message :=
  { uid := 1, subject := subjectOf (some (glyphs "Re: ")), sender := "a@x.com" }

/-- The reply to a message without a subject is paired with none. -/
theorem blank_subject_unpaired :
    subjectText none = "" ∧ subjectText (some (glyphs "Re: ")) = "Re: " ++ subjectText none ∧
      contains (lower unnamed.addressees) (bareAddress unnamedReply.sender) = true ∧
      normalize unnamedReply.subject ≠ normalize unnamed.subject ∧
      matching [unnamedReply] [unnamed] = ⟨[], [1]⟩ := by
  decide +kernel

end Mailroom.Thread
