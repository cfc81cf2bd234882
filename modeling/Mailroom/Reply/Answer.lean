import Mailroom.Reply.Category
/-!
  Mailroom.Reply.Answer
  ────────────────────────────────
  **QUESTIONS TO THE CLASSIFIER AND WHAT IT ANSWERS.**

  The classifier is asked with the subject and the start of a reply and made to
  answer through the tool `classify_reply`.  Its answer is a list of blocks: the
  first call of that tool decides, without one the first text block.
-/
namespace Mailroom.Reply

/-! ## §1. Questions. -/

/-- The tool through which the classifier answers. -/
def toolName : String := "classify_reply"

/-- The instructions that go with every question. -/
def instructions : String := "\n".intercalate
  ["You classify replies to outbound sales and outreach emails.",
   "",
   "Categories:",
   "- interested: positive reply, wants to learn more, requests a meeting or call",
   "- complained: negative, asked to stop, reported spam",
   "- out_of_office: auto-reply, vacation, OOO message",
   "- unsubscribed: explicitly asked to be removed",
   "- bounced: delivery failure, invalid address, mailbox full",
   "- none: none of the above apply",
   "",
   "When ambiguous, prefer the most specific category. out_of_office beats interested.",
   "",
   "Always answer by calling the classify_reply tool."]

/-- A question: the model, the cap on the tokens of the answer, and the user's
turn. -/
structure Question where
  model : String
  maxTokens : Int
  content : String
  deriving Repr, DecidableEq

/-- The user's turn for one reply. -/
def turn (subject preview : String) : String := "Subject: " ++ subject ++ "\n\n" ++ preview

/-! ## §2. Answers. -/

/-- A block of an answer. -/
inductive Block where
  | toolCall (name : String) (input : Json)
  | text (content : String)
  | other
  deriving Repr

/-- The input of the first call of the tool. -/
def firstCall? (blocks : List Block) : Option Json :=
  blocks.findSome? fun
    | .toolCall name input => if name == toolName then some input else none
    | _ => none

/-- The first text of an answer. -/
def firstText? (blocks : List Block) : Option String :=
  blocks.findSome? fun
    | .text content => some content
    | _ => none

/-- The category an answer states. -/
def Category.ofBlocks (blocks : List Block) : Except Json.Misuse Category :=
  match firstCall? blocks with
  | some input => ofAnswer ((input.get? "category").getD .null)
  | .none => .ok (((firstText? blocks).map ofText).getD .none)

/-- A question that could not be answered. -/
structure ClassificationError where
  reason : String
  subject : String
  deriving Repr, DecidableEq

/-- The message for a failed question. -/
def ClassificationError.message (e : ClassificationError) : String :=
  s!"Claude classification failed: {e.reason}. Check ANTHROPIC_API_KEY and API status."

end Mailroom.Reply
