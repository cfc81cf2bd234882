import Mailroom.Failure
/-!
  Mailroom.Reply.Classifier
  ────────────────────────────────
  **ASKING FOR THE CATEGORY OF A REPLY.**
-/
namespace Mailroom.Reply

/-- The model that judges replies, and the cap on the tokens of an answer. -/
structure Classifier where
  model : String
  maxTokens : Int := 256
  deriving Repr, DecidableEq

/-- The question about a reply. -/
def Classifier.question (c : Classifier) (subject preview : String) : Question where
  model := c.model
  maxTokens := c.maxTokens
  content := turn subject preview

/-- The category of a reply. -/
def Classifier.judge (c : Classifier) (subject preview : String) : Program Category := do
  match ← Program.ask (.classify (c.question subject preview)) with
  | .error reason => throw (.classification { reason, subject })
  | .ok blocks => Program.ofMisuse (Category.ofBlocks blocks)

end Mailroom.Reply
