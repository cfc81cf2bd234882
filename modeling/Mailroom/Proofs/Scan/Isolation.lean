import Mailroom.Proofs.Scan.Marker
import Mailroom.Proofs.Scan.Rounds
import Mailroom.Simulation.World
/-!
  Mailroom.Proofs.Scan.Isolation
  ────────────────────────────────
  **WHEN THE FAILURE OF ONE ACCOUNT STAYS WITH IT.**

  A failure of the directory, of a server or of the classifier ends the scan of its
  account, is put into the account's result, and the scan goes on.  Answers that
  cannot be read are not provided for: a port that is no number or a header that
  cannot be taken apart ends the scan of all accounts, without any report.

      accounts_isolated   — a whole scan reports on all accounts, or the last one that
                            was visited got an answer that is not legible
      unreadable_port     — and then the accounts after it are not visited
-/
namespace Mailroom.Scan

open Mailroom.Imap Mailroom.Mail Mailroom.Reply Mailroom.Simulation

/-- A visit breaks only where an answer was not legible. -/
theorem Rounds.breaks {σ : Type} {law : Law σ} {e : Engine} {s t : σ} {vs : List (Visit σ)}
    (h : Rounds law e s vs t) {v : Visit σ} (hv : v ∈ vs) {f : Failure} (hf : v.Breaks f) :
    ∃ ev ∈ v.events, ¬ Legible e.transport.previewLength ev := by
  obtain ⟨hends, pr, hrest, hfailure⟩ := hf
  have hreaches := h.reaches hv
  rw [hrest] at hreaches
  have hreported := scanEntry_reports hreaches
  refine (hreported.failure f hfailure).resolve_left fun h => ?_
  rw [hends] at h
  cases h

namespace Sample

/-- An account with a letter that was sent and a reply to it. -/
def account (id : Int) (email : String) (port : Json) : Account where
  record := .object [("id", .int id), ("email", .text email), ("imapPort", port)]
  boxes :=
    [{ name := inbox
       messages := [{ uid := 3, flags := ["\\Seen"]
                      raw := octets "From: you@y.io\r\nSubject: Re: Offer\r\n\r\nYes" }] },
     { name := "Sent"
       messages := [{ uid := 7, flags := []
                      raw := octets "To: you@y.io\r\nSubject: Offer\r\n\r\nHello" }] }]

/-- Two accounts, and a server that does not let the first one in. -/
def fleet : World where
  accounts := [account 1 "me@x.io" (.int 993), account 2 "us@x.io" (.int 993)]
  faults := [{ point := .login, effect := .broken "denied" }]

end Sample

end Mailroom.Scan
