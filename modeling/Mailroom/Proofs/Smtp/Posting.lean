import Mailroom.Proofs.Dialogue.Program
import Mailroom.Proofs.Mime.OrdinaryAddress
import Mailroom.Smtp.Exchange
/-!
  Mailroom.Proofs.Smtp.Posting
  ────────────────────────────────
  **WHAT BECOMES OF A REQUEST TO SEND.**

  A letter is composed first and then handed to a server.  A request of which no letter
  can be composed is refused before anything is said to a server; the outcome of the
  exchange says for each recipient whether it was accepted.

      readable_of_ordinary — the headers can be read if every address in them is ordinary
      compose_rejected     — a letter that cannot be composed, though its headers can be read,
                             is refused as an input
      Settles              — what an exchange means for the delivery
      posts_of_ends        — every run of sending is one of the two
-/
namespace Mailroom.Smtp

open Mailroom.Mail Mailroom.Text
open Mailroom.Directory (Mailbox)
open Mailroom.Mime (Dotted Glyphs HeaderFault Ordinary OrdinaryList Token addressList
  addressList_ok glyphs messageId messageId_ok unstructured)

/-! ## §1. Composing. -/

section

variable {α β : Type} {x : Except Failure α} {m : Mailbox} {r : Request} {stamp : Stamp}

/-- A computation that fails only as an input is refused. -/
def Refuses (x : Except Failure α) : Prop := ∀ f, x = .error f → f.isRejected = true

theorem Refuses.ok (a : α) : Refuses (.ok a) := nofun

theorem Refuses.error {f : Failure} (h : f.isRejected = true) :
    Refuses (.error f : Except Failure α) := by
  intro f' hf'
  cases hf'
  exact h

theorem Refuses.bind {f : α → Except Failure β} (h : Refuses x)
    (hf : ∀ a, x = .ok a → Refuses (f a)) : Refuses (x >>= f) := by
  cases x with
  | error e => exact .error (h e rfl)
  | ok a => exact hf a rfl

/-- The headers of a letter: the form in which each is shown, and its text. -/
inductive Header (m : Mailbox) (r : Request) (stamp : Stamp) :
    (Glyphs → Except HeaderFault Glyphs) → String → Prop
  | sender {text : String} (h : m.sender = .text text) : Header m r stamp addressList text
  | addressees : Header m r stamp addressList (addressLine r.addressees)
  | cc (h : r.cc ≠ []) : Header m r stamp addressList (addressLine r.cc)
  | subject : Header m r stamp (fun gs => .ok (unstructured gs)) r.subject
  | messageId {text : String} (h : m.email = .text text) :
      Header m r stamp messageId ("<" ++ stamp.token ++ "@" ++ idDomain text ++ ">")

/-- **Nothing stops the readers of the headers of a letter**: the mailbox is named by texts,
and each header that has one line can be read. -/
structure Readable (m : Mailbox) (r : Request) (stamp : Stamp) : Prop where
  sender : ∃ text, m.sender = .text text
  email : ∃ text, m.email = .text text
  headers : ∀ form written, Header m r stamp form written →
    hasSeveralLines written = true ∨ ∃ gs, form (glyphs written) = .ok gs

theorem ordinaryList_addressLine {a : String} {more : List String}
    (h : ∀ b ∈ a :: more, Ordinary (glyphs b)) : OrdinaryList (glyphs (addressLine (a :: more))) := by
  induction more generalizing a with
  | nil => simpa [addressLine] using OrdinaryList.one (h a List.mem_cons_self)
  | cons b more ih =>
    have hrest := ih fun c hc => h c (List.mem_cons_of_mem a hc)
    have hline : glyphs (addressLine (a :: b :: more)) =
        glyphs a ++ .char ',' :: .char ' ' :: glyphs (addressLine (b :: more)) := by
      simp [glyphs, addressLine, String.toList_intercalate]
    rw [hline]
    exact .more (h a List.mem_cons_self) hrest

/-- **Nothing stops the readers where every address is ordinary.** -/
theorem readable_of_ordinary {sender email : String} {ts us : List Token}
    (hsender : m.sender = .text sender) (hemail : m.email = .text email)
    (hfrom : Ordinary (glyphs sender))
    (haddressees : ∀ a ∈ r.addressees, Ordinary (glyphs a)) (hcc : ∀ a ∈ r.cc, Ordinary (glyphs a))
    (htoken : Dotted ts (glyphs stamp.token)) (hdomain : Dotted us (glyphs (idDomain email))) :
    Readable m r stamp := by
  have hline : ∀ addresses, (∀ a ∈ addresses, Ordinary (glyphs a)) →
      ∃ gs, addressList (glyphs (addressLine addresses)) = .ok gs := by
    intro addresses h
    cases addresses with
    | nil => exact ⟨_, rfl⟩
    | cons a more => exact addressList_ok (ordinaryList_addressLine h)
  refine ⟨⟨sender, hsender⟩, ⟨email, hemail⟩, ?_⟩
  intro form written hheader
  right
  cases hheader with
  | sender h =>
    obtain rfl : _ = sender := by simpa [hsender] using h.symm
    exact addressList_ok (.one hfrom)
  | addressees => exact hline r.addressees haddressees
  | cc _ => exact hline r.cc hcc
  | subject => exact ⟨_, rfl⟩
  | messageId h =>
    obtain rfl : _ = email := by simpa [hemail] using h.symm
    simpa [glyphs] using messageId_ok htoken hdomain

theorem Readable.heading (h : Readable m r stamp) {form : Glyphs → Except HeaderFault Glyphs}
    {written : String} (hheader : Header m r stamp form written) :
    Refuses (heading form written) := by
  unfold Mail.heading
  split
  · exact .error rfl
  next hone =>
    obtain ⟨gs, hgs⟩ := (h.headers form written hheader).resolve_left hone
    rw [hgs]
    exact .ok _

theorem refuses_textOr {member text : String} {v : Json} (hv : v = .text text) :
    Refuses (textOr member v) := by
  subst hv
  exact .ok text

theorem textOr_eq {member text text' : String} {v : Json} (hv : v = .text text)
    (h : textOr member v = .ok text') : text' = text := by
  subst hv
  cases h
  rfl

/-- **A letter that cannot be composed is refused as an input**, if its headers can be read:
for want of a recipient or of a body, or for a line break in a header. -/
theorem compose_rejected (h : Readable m r stamp) : Refuses (compose m r stamp) := by
  obtain ⟨sender, hsender⟩ := h.sender
  obtain ⟨email, hemail⟩ := h.email
  unfold compose
  extract_lets headers
  have hheaders : Refuses (headers ()) := by
    simp -zeta only [headers]
    split
    · exact .error rfl
    refine (refuses_textOr hsender).bind fun text htext => ?_
    obtain rfl := textOr_eq hsender htext
    refine (h.heading (.sender hsender)).bind fun _ _ => ?_
    refine (h.heading .addressees).bind fun _ _ => ?_
    extract_lets others
    have hothers : ∀ cc, Refuses (others cc) := by
      intro cc
      refine (h.heading .subject).bind fun _ _ => ?_
      refine (refuses_textOr hemail).bind fun text htext => ?_
      obtain rfl := textOr_eq hemail htext
      exact (h.heading (.messageId hemail)).bind fun _ _ => .ok _
    split
    · exact hothers none
    next hcc =>
      refine .bind ?_ fun _ _ => hothers _
      have hheading := h.heading (.cc fun hnil => hcc (by rw [hnil]; rfl))
      cases hx : heading addressList (addressLine r.cc) with
      | error f => exact .error (hheading f hx)
      | ok _ => exact .ok _
  split
  · exact .error rfl
  · exact hheaders

end

/-! ## §2. Deliveries. -/

/-- Each recipient is either refused or accepted, as often as it was named. -/
structure Split (recipients refused : List String) (d : Delivery) : Prop where
  accepted : d.accepted = recipients.filter (· ∉ refused)
  rejected : d.rejected = recipients.filter (· ∈ refused)

/-- Nobody is lost or named more often than before. -/
theorem Split.perm {recipients refused : List String} {d : Delivery}
    (h : Split recipients refused d) : (d.accepted ++ d.rejected).Perm recipients := by
  rw [h.accepted, h.rejected]
  exact List.perm_append_comm.trans (by simpa using List.filter_append_perm (· ∈ refused) recipients)

/-- **What an exchange means**: a letter that was handed over has its recipients split by
those that the server refused.  That it refused all of them is no failure; the connection
or the server may fail. -/
inductive Settles (m : Mailbox) (letter : Letter) (recipients : List String) :
    Except Fault (List String) → Except Failure Delivery → Prop
  | handed {refused : List String} {d : Delivery} (split : Split recipients refused d)
      (raw : d.raw = letter.octets) : Settles m letter recipients (.ok refused) (.ok d)
  | refused {refused : List String} {d : Delivery} (none : d.accepted = [])
      (split : (∀ a ∈ recipients, a ∈ refused) → Split recipients refused d) :
      Settles m letter recipients (.error (.allRefused refused)) (.ok d)
  | lost {reason : String} : Settles m letter recipients (.error (.lost reason))
      (.error (.transport (.send m.smtp.host.plain reason)))
  | failed {reason : String} : Settles m letter recipients (.error (.connection reason))
      (.error (.transport (.send m.smtp.host.plain reason)))
  | foreign {reason : String} :
      Settles m letter recipients (.error (.foreign reason)) (.error (.foreign reason))

theorem settles_outcome (m : Mailbox) (letter : Letter) (recipients : List String)
    (q : Except Fault (List String)) :
    Settles m letter recipients q (Sender.outcome m letter recipients q) := by
  rcases q with (refused | reason | reason | reason) | refused
  · refine .refused rfl fun hall => ⟨?_, ?_⟩
    · simpa [refusalOf] using hall
    · simp [refusalOf]
  · exact .lost
  · exact .failed
  · exact .foreign
  · refine .handed ⟨?_, ?_⟩ (by rw [deliveryOf])
    · simp [deliveryOf]
    · simp [deliveryOf]

/-! ## §3. Sending. -/

variable {σ : Type} {law : Law σ}

/-- **What is said for a request, and what becomes of it.**  Either no letter can be composed,
and nothing is said to a server, or the letter is handed over in one exchange. -/
inductive Posts (law : Law σ) (s : Sender) (m : Mailbox) (r : Request) (w : σ) :
    List Event → Except Failure Delivery → σ → Prop
  | uncomposed {stamp : Stamp} {f : Failure} {t : σ} (stamped : law w .stamp stamp t)
      (failed : compose m r stamp = .error f)
      (rejected : Readable m r stamp → f.isRejected = true) :
      Posts law s m r w [⟨.stamp, stamp⟩] (.error f) t
  | exchanged {stamp : Stamp} {w' t : σ} {letter : Letter} {talk : List Event}
      {q : Except Fault (List String)} {x : Except Failure Delivery}
      (stamped : law w .stamp stamp w') (composed : compose m r stamp = .ok letter)
      (talked : Dialogue.Ends law (exchange (s.endpoint m) m letter r.recipients).run w' talk q t)
      (settled : Settles m letter r.recipients q x) :
      Posts law s m r w (⟨.stamp, stamp⟩ :: talk) x t

theorem posts_of_ends {s : Sender} {m : Mailbox} {r : Request} {w t : σ} {tr : List Event}
    {x : Except Failure Delivery} (h : Dialogue.Ends law (s.send m r).run w tr x t) :
    Posts law s m r w tr x t := by
  unfold Sender.send at h
  obtain ⟨stamp, w₁, rest, rfl, hstamp, h⟩ := ends_ask_bind h
  cases hletter : compose m r stamp with
  | error f =>
    rw [hletter] at h
    obtain ⟨rfl, rfl, rfl⟩ := Dialogue.Ends.of_pure h
    exact .uncomposed hstamp hletter fun hread => compose_rejected hread f hletter
  | ok letter =>
    rw [hletter] at h
    obtain ⟨talk, tr₂, q, w₂, rfl, htalk, h⟩ := ends_lift_bind h
    obtain ⟨rfl, rfl, rfl⟩ := ends_ofExcept h
    rw [List.append_nil]
    exact .exchanged hstamp hletter htalk (settles_outcome m letter r.recipients q)

end Mailroom.Smtp
