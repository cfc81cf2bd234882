import Mailroom.Directory.Request
import Mailroom.Reply.Answer
import Mailroom.Smtp.Command
/-!
  Mailroom.Dialogue.Basic
  ────────────────────────────────
  **PROGRAMS AS DIALOGUES WITH THE OUTSIDE WORLD.**

  A dialogue is finished, or it has a question for the outside world and a way to
  go on for every answer.  A world is a state with an answer to every question;
  `Dialogue.run` holds a dialogue with it.  What a program may ask is listed in
  `Command`.
-/
namespace Mailroom

open Mailroom.Number

/-! ## §1. Questions. -/

/-- What can be asked of the outside world. -/
inductive Command where
  /-- A record of the directory. -/
  | get (request : Directory.Request)
  /-- A name for a scan that no other scan has. -/
  | scanId
  /-- The time in milliseconds. -/
  | clock
  /-- A stamp for a letter. -/
  | stamp
  /-- A random number from 0 to 1. -/
  | draw
  /-- A pause, in seconds. -/
  | sleep (seconds : Binary64)
  /-- A judgement of the classifier. -/
  | classify (question : Reply.Question)
  /-- A new IMAP connection. -/
  | connect (endpoint : Imap.Endpoint)
  /-- A command on the IMAP connection opened last. -/
  | imap (command : Imap.Command)
  /-- A step of an SMTP exchange. -/
  | smtp (command : Smtp.Command)
  deriving Repr

/-- The answers a question can have: a new IMAP connection has capabilities, and
a judgement comes as blocks or fails for a reason. -/
@[reducible] def Command.Answer : Command → Type
  | get _ => Directory.Outcome
  | scanId => String
  | clock => Nat
  | stamp => Mail.Stamp
  | draw => Binary64
  | sleep _ => Unit
  | classify _ => Except String (List Reply.Block)
  | connect _ => Except Imap.Fault (List String)
  | imap _ => Except Imap.Fault Imap.Response
  | smtp _ => Except Smtp.Fault Smtp.Response

/-! ## §2. Dialogues. -/

/-- A finished dialogue, or a question and a way to go on for every answer. -/
inductive Dialogue (α : Type) where
  | pure (a : α)
  | ask (c : Command) (next : c.Answer → Dialogue α)

namespace Dialogue

variable {α β : Type}

/-- Goes on with `f` when a dialogue is finished. -/
def bind : Dialogue α → (α → Dialogue β) → Dialogue β
  | pure a, f => f a
  | ask c next, f => ask c fun r => (next r).bind f

instance : Monad Dialogue where
  pure := Dialogue.pure
  bind := Dialogue.bind

/-- Asks one question. -/
def put (c : Command) : Dialogue c.Answer := ask c pure

/-! ## §3. Worlds. -/

/-- Holds a dialogue with a world in a state: `answer` gives the answer to each
question and the state after it. -/
def run {σ : Type} (answer : (c : Command) → σ → c.Answer × σ) : Dialogue α → σ → α × σ
  | pure a, s => (a, s)
  | ask c next, s => (next (answer c s).1).run answer (answer c s).2

end Dialogue

end Mailroom
