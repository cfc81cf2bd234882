import Mailroom.Proofs.Service.Farewell
import Mailroom.Proofs.Service.Filing
import Mailroom.Proofs.Smtp.Posting
/-!
  Mailroom.Proofs.Service.Sending
  ────────────────────────────────
  **FILING A COPY DOES NOT CHANGE THE OUTCOME OF SENDING.**

  A request to send looks up its mailbox, has the letter handed over, and files a copy if
  somebody accepted it.  The result is that of the exchange whatever becomes of the copy,
  as long as the answers while it is filed are foreseen; and where there is nothing to file
  no connection to the mailbox is opened.

      Follows           — what filing makes of the result of an exchange
      sends_of_ends     — every run of sending, and whatever is answered
      outcome_forfeited — a recipient that cannot be read, and a host that is no text
-/
namespace Mailroom.Service

open Mailroom.Imap Mailroom.Mail Mailroom.Simulation Mailroom.Smtp
open Mailroom.Directory (Mailbox)

/-! ## §1. Outcomes. -/

variable {σ : Type} {law : Law σ}

/-- **What filing makes of the result of an exchange**, given what was said for it: nothing
is said after a failure, or where nobody accepted the letter; otherwise at most one copy
is filed, and the result stays unless some answer was not foreseen. -/
inductive Follows (law : Law σ) (s : Service) (m : Mailbox) (w : σ) :
    Except Failure Delivery → List Event → Except Failure Delivery → σ → Prop
  | failed {f : Failure} : Follows law s m w (.error f) [] (.error f) w
  | unaccepted {d : Delivery} (nobody : d.accepted = []) : Follows law s m w (.ok d) [] (.ok d) w
  | filed {d : Delivery} {back : List Event} {z : Except Failure Unit} {t : σ}
      (somebody : d.accepted ≠ []) (ran : Dialogue.Ends law (s.file m d.raw).run w back z t)
      (once : OneCopy d.raw back) (calm : Calm (s.transport.endpoint m).host back) :
      Follows law s m w (.ok d) back (.ok d) t
  | forfeited {d : Delivery} {back : List Event} {f : Failure} {t : σ}
      (somebody : d.accepted ≠ []) (ran : Dialogue.Ends law (s.file m d.raw).run w back (.error f) t)
      (once : OneCopy d.raw back)
      (cause : ∃ ev ∈ back, ¬ Foreseen (s.transport.endpoint m).host ev) :
      Follows law s m w (.ok d) back (.error f) t

/-- **A run of sending**: the mailbox is not found, or it is, the letter is posted, and a
copy is filed.  Until the letter is posted nothing is said on a connection to the mailbox. -/
inductive Sends (law : Law σ) (s : Service) (email : String) (r : Request) (w : σ) :
    List Event → Except Failure Delivery → σ → Prop
  | unknown {look : List Event} {f : Failure} {t : σ}
      (looked : Dialogue.Ends law (s.directory.mailboxAt email).run w look (.error f) t)
      (aside : ∀ ev ∈ look, Aside ev.1) : Sends law s email r w look (.error f) t
  | known {look hand back : List Event} {m : Mailbox} {x y : Except Failure Delivery}
      {w₁ w₂ t : σ} (looked : Dialogue.Ends law (s.directory.mailboxAt email).run w look (.ok m) w₁)
      (posted : Posts law s.sender m r w₁ hand y w₂) (aside : ∀ ev ∈ look ++ hand, Aside ev.1)
      (follows : Follows law s m w₂ y back x t) : Sends law s email r w (look ++ hand ++ back) x t

/-! ## §2. Runs. -/

theorem follows_of_file {s : Service} {m : Mailbox} {d : Delivery} {w t : σ} {back : List Event}
    {z : Except Failure Unit} (somebody : d.accepted ≠ [])
    (hrun : Dialogue.Ends law (s.file m d.raw).run w back z t) :
    PassedOver z ∧ Follows law s m w (.ok d) back (.ok d) t ∨
      ∃ f, z = .error f ∧ ¬ Excused f ∧ Follows law s m w (.ok d) back (.error f) t := by
  obtain ⟨htells, hone⟩ := file_ends hrun
  by_cases hcalm : Calm (s.transport.endpoint m).host back
  · exact .inl ⟨htells.2 hcalm, .filed somebody hrun hone hcalm⟩
  · have hcause : ∃ ev ∈ back, ¬ Foreseen (s.transport.endpoint m).host ev := by
      simpa [Calm] using hcalm
    have hpassed : ¬ PassedOver z := fun h => hcalm (htells.1 h)
    cases z with
    | ok _ => exact (hpassed trivial).elim
    | error f => exact .inr ⟨f, rfl, hpassed, .forfeited somebody hrun hone hcause⟩

/-- **Filing a copy does not change the outcome of sending**, as long as the answers while it
is filed are foreseen.  The outcome is that of the exchange, which splits the recipients by
those the server refused; a copy is filed once at most, and only if somebody accepted the
letter; and if the letter cannot be composed or the exchange fails, that failure is the
outcome and no connection to the mailbox is opened. -/
theorem sends_of_ends {s : Service} {email : String} {r : Request} {w t : σ} {tr : List Event}
    {x : Except Failure Delivery} (hrun : Dialogue.Ends law (s.send email r).run w tr x t) :
    Sends law s email r w tr x t := by
  unfold Service.send at hrun
  rcases ends_program_bind hrun with ⟨f, rfl, hlook⟩ | ⟨look, tr₁, m, w₁, rfl, hlook, hrun⟩
  · exact .unknown hlook ((poses_mailboxAt _ _).reaches hlook).1
  have haside : ∀ {hand y w₂}, Dialogue.Ends law (s.sender.send m r).run w₁ hand y w₂ →
      ∀ ev ∈ look ++ hand, Aside ev.1 := fun hpost => List.forall_mem_append.2
    ⟨((poses_mailboxAt _ _).reaches hlook).1, ((poses_send _ _ _).reaches hpost).1⟩
  rcases ends_program_bind hrun with ⟨f, rfl, hpost⟩ | ⟨hand, back, d, w₂, rfl, hpost, hrun⟩
  · have hknown := Sends.known hlook (posts_of_ends hpost) (haside hpost) .failed
    rwa [List.append_nil] at hknown
  rw [← List.append_assoc]
  refine .known hlook (posts_of_ends hpost) (haside hpost) ?_
  split at hrun
  next hnobody =>
    obtain ⟨rfl, rfl, rfl⟩ := Dialogue.Ends.of_pure hrun
    exact .unaccepted (List.isEmpty_iff.1 hnobody)
  next hsomebody =>
    have hsome : d.accepted ≠ [] := fun hnil => hsomebody (List.isEmpty_iff.2 hnil)
    obtain ⟨back, rest, z, w₃, rfl, hfile, hrun⟩ := ends_lift_bind hrun
    rcases follows_of_file hsome hfile with ⟨hpassed, hfollows⟩ | ⟨f, rfl, hexcused, hfollows⟩
    · have hsame : rest = [] ∧ .ok d = x ∧ w₃ = t := by
        rcases z with f | ⟨⟩
        · cases f with
          | transport e => exact Dialogue.Ends.of_pure hrun
          | _ => exact hpassed.elim
        · exact Dialogue.Ends.of_pure hrun
      obtain ⟨rfl, rfl, rfl⟩ := hsame
      rwa [List.append_nil]
    · have hthrown : rest = [] ∧ .error f = x ∧ w₃ = t := by
        cases f with
        | transport e => exact (hexcused trivial).elim
        | _ => exact Dialogue.Ends.of_pure hrun
      obtain ⟨rfl, rfl, rfl⟩ := hthrown
      rwa [List.append_nil]

namespace Sample

/-- A letter to two people, with a hidden copy to one of them. -/
def request : Request where
  addressees := ["bob@y.io", "eve@y.io"]
  subject := "Hi"
  text := some "Yes"
  bcc := ["bob@y.io"]

/-- A mailbox whose SMTP server refuses one of the two, and whose IMAP server breaks off
before a copy is filed. -/
def refusing : World where
  accounts := [{ record := .object [("id", .int 1), ("email", .text "me@x.io")]
                 boxes := [{ name := inbox, messages := [] }]
                 refuses := ["eve@y.io"] }]
  faults := [{ point := .append, effect := .broken "gone" }]

/-- Where the record names the host of the IMAP server by a number. -/
def numbered : World where
  accounts := [{ record := .object [("id", .int 1), ("email", .text "me@x.io"),
                   ("imapHost", .int 5)]
                 boxes := [{ name := inbox, messages := [] }] }]

/-- The owner of a mailbox. -/
def owner : Mailbox where
  id := 1
  email := .text "me@x.io"
  firstName := .text ""
  lastName := .text ""
  imap := { host := .text "", port := 993, tls := true, user := .text "me@x.io", password := .null }
  smtp := { host := .text "", port := 465, tls := true, user := .text "me@x.io", password := .null }

/-- A letter to an address without a domain. -/
def broken : Request := { request with addressees := ["bob@"] }

/-- The fault of a header in which a computation ended. -/
def headerFault? {α : Type} : Except Failure α → Option Mime.HeaderFault
  | .error (.header e) => some e
  | _ => none

theorem eq_of_headerFault? {α : Type} {x : Except Failure α} {e : Mime.HeaderFault}
    (h : headerFault? x = some e) : x = .error (.header e) := by
  rcases x with f | a
  · cases f with
    | header e' =>
      cases h
      rfl
    | _ => cases h
  · cases h

end Sample

open Sample in
theorem sends_of_ends_sample :
    Sends (Dialogue.lawOf World.answer) service "me@x.io" request refusing
        ((service.send "me@x.io" request).run.trace World.answer refusing)
        ((service.send "me@x.io" request).run.run World.answer refusing).1
        ((service.send "me@x.io" request).run.run World.answer refusing).2 ∧
      ((service.send "me@x.io" request).run.run World.answer refusing).1.toOption.map
          (fun d => (d.accepted, d.rejected)) = some (["bob@y.io", "bob@y.io"], ["eve@y.io"]) ∧
      (copies ((service.send "me@x.io" request).run.trace World.answer refusing)).length = 1 :=
  ⟨sends_of_ends (Dialogue.ends_lawOf World.answer _ refusing), by decide +kernel, by decide +kernel⟩

open Sample in
/-- Composing may fail in a way that no input is refused in, and so may filing a copy after
the letter was handed over: the outcome of sending is then that failure. -/
theorem outcome_forfeited :
    (¬ ∀ (s : Service) (m : Mailbox) (r : Request) (w : World) (f : Failure),
      ((s.sender.send m r).run.run World.answer w).1 = .error f →
        f.isRejected = true ∨ ∃ e, f = .transport e) ∧
    ¬ ∀ (s : Service) (email : String) (r : Request) (w : World) (m : Mailbox) (d : Delivery),
      ((s.directory.mailboxAt email).run.run World.answer w).1 = .ok m →
        ((s.sender.send m r).run.run World.answer w).1 = .ok d →
          ((s.send email r).run.run World.answer w).1 = .ok d := by
  constructor
  · intro h
    have hends : headerFault? ((service.sender.send owner broken).run.run World.answer refusing).1
        = some .endOfText := by
      decide +kernel
    rcases h service owner broken refusing _ (eq_of_headerFault? hends) with hrejected | ⟨e, he⟩
    · cases hrejected
    · cases he
  · intro h
    have hsent : (((service.directory.mailboxAt "me@x.io").run.run World.answer numbered).1.toOption.any
        fun m => ((service.sender.send m request).run.run World.answer numbered).1.isOk) = true := by
      decide +kernel
    have hlost : ((service.send "me@x.io" request).run.run World.answer numbered).1.isOk = false := by
      decide +kernel
    generalize hm : ((service.directory.mailboxAt "me@x.io").run.run World.answer numbered).1 = found
      at hsent
    rcases found with f | m
    · cases hsent
    · simp only [Except.toOption, Option.any_some] at hsent
      generalize hd : ((service.sender.send m request).run.run World.answer numbered).1 = sent
        at hsent
      rcases sent with f | d
      · cases hsent
      · rw [h service "me@x.io" request numbered m d hm hd] at hlost
        cases hlost

end Mailroom.Service
