import Mailroom.Dialogue.Basic
/-!
  Mailroom.Simulation.Script
  ────────────────────────────────
  **A WORLD THAT ANSWERS FROM A LIST.**

  Every kind of question has a list of answers that are given one after the
  other.  When a list is used up, a connection reports an error, the directory
  fails in a way that nobody expects, a random number is one half, and the
  classifier says that no category applies.
-/
namespace Mailroom.Simulation

open Mailroom.Number

/-- The answers that are left, and the questions asked so far, the last first. -/
structure Script where
  replies : List (Except Imap.Fault Imap.Response) := []
  capabilities : List String := []
  responses : List Directory.Outcome := []
  randoms : List Binary64 := []
  judgements : List (Except String (List Reply.Block)) := []
  asked : List Command := []

namespace Script

/-- What is said when a list is used up. -/
def exhausted : String := "script exhausted"

/-- The random number where none is given. -/
def half : Binary64 := .ofDecimal false 5 (-1)

/-- A judgement without any block stands for no category. -/
def noJudgement : Except String (List Reply.Block) := .ok []

/-- The name of every scan. -/
def someScanId : String := "00000000-0000-4000-8000-000000000000"

/-- The stamp of every letter. -/
def someStamp : Mail.Stamp := { date := "Sat, 01 Mar 2025 09:30:00 +0000", token := "ID" }

/-- The next answer to a command on a connection. -/
def nextReply (s : Script) : Except Imap.Fault Imap.Response × Script :=
  match s.replies with
  | r :: rest => (r, { s with replies := rest })
  | [] => (.error (.connection exhausted), s)

/-- The answer to a question and the script after it. -/
def answer (c : Command) (s : Script) : c.Answer × Script :=
  let s := { s with asked := c :: s.asked }
  match c with
  | .get _ =>
    match s.responses with
    | r :: rest => (r, { s with responses := rest })
    | [] => (.foreign exhausted, s)
  | .scanId => (someScanId, s)
  | .clock => (0, s)
  | .stamp => (someStamp, s)
  | .draw =>
    match s.randoms with
    | r :: rest => (r, { s with randoms := rest })
    | [] => (half, s)
  | .sleep _ => ((), s)
  | .classify _ =>
    match s.judgements with
    | j :: rest => (j, { s with judgements := rest })
    | [] => (noJudgement, s)
  | .connect _ =>
    match s.nextReply with
    | (.ok _, s) => (.ok s.capabilities, s)
    | (.error fault, s) => (.error fault, s)
  | .imap _ => s.nextReply
  | .smtp _ => (.error (.connection exhausted), s)

end Script

end Mailroom.Simulation
