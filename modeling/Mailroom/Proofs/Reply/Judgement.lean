import Mailroom.Proofs.Dialogue.Program
import Mailroom.Reply.Classifier
import Mailroom.Simulation.Script
/-!
  Mailroom.Proofs.Reply.Judgement
  ────────────────────────────────
  **WHAT BECOMES OF AN ANSWER OF THE CLASSIFIER.**

  An answer is a list of blocks that a language model wrote.  The first call of the tool
  speaks for it, or the first text where the tool is not called; what that value names is
  the category:

      says_iff      — an answer says one thing
      ofText_eq_iff — which category a text names
      judge_runs    — a reply costs one question, and what follows from its answer
      number_named  — a category that is given and is no text ends in a fault

  So only the last kind of answer is neither understood nor taken for no category.
-/
namespace Mailroom.Reply

open Mailroom.Simulation

/-! ## §1. What an answer says. -/

/-- **What an answer says**: the category in the input of the first call of the tool,
whatever stands in front of it; where the tool is not called, the first text; else
nothing. -/
inductive Says : List Block → Json → Prop
  | call {before after : List Block} {input : Json}
      (first : ∀ earlier, .toolCall toolName earlier ∉ before) :
      Says (before ++ .toolCall toolName input :: after) ((input.get? "category").getD .null)
  | text {before after : List Block} {content : String}
      (uncalled : ∀ input, .toolCall toolName input ∉ before ++ .text content :: after)
      (first : ∀ earlier, .text earlier ∉ before) :
      Says (before ++ .text content :: after) (.text content)
  | silence {blocks : List Block} (uncalled : ∀ input, .toolCall toolName input ∉ blocks)
      (untold : ∀ content, .text content ∉ blocks) : Says blocks .null

section

variable {blocks : List Block} {input v : Json} {content : String}

theorem firstCall?_eq_some_iff : firstCall? blocks = some input ↔
    ∃ before after, blocks = before ++ .toolCall toolName input :: after ∧
      ∀ earlier, .toolCall toolName earlier ∉ before := by
  rw [firstCall?, List.findSome?_eq_some_iff]
  constructor
  · rintro ⟨before, b, after, rfl, hb, hbefore⟩
    cases b with
    | toolCall name i =>
      obtain ⟨hname, hi⟩ := Option.ite_none_right_eq_some.1 hb
      obtain rfl := beq_iff_eq.1 hname
      obtain rfl := Option.some.inj hi
      refine ⟨before, after, rfl, fun earlier hmem => ?_⟩
      simpa using hbefore _ hmem
    | text content | other => cases hb
  · rintro ⟨before, after, rfl, hfirst⟩
    refine ⟨before, _, after, rfl, by simp, fun b hb => ?_⟩
    cases b with
    | toolCall name i =>
      refine if_neg fun hname => ?_
      obtain rfl := beq_iff_eq.1 hname
      exact hfirst i hb
    | text content | other => rfl

theorem firstCall?_eq_none_iff :
    firstCall? blocks = none ↔ ∀ input, .toolCall toolName input ∉ blocks := by
  rw [firstCall?, List.findSome?_eq_none_iff]
  constructor
  · intro hnone input hmem
    simpa using hnone _ hmem
  · intro huncalled b hb
    cases b with
    | toolCall name input =>
      refine if_neg fun hname => ?_
      obtain rfl := beq_iff_eq.1 hname
      exact huncalled input hb
    | text content | other => rfl

theorem firstText?_eq_some_iff : firstText? blocks = some content ↔
    ∃ before after, blocks = before ++ .text content :: after ∧
      ∀ earlier, .text earlier ∉ before := by
  rw [firstText?, List.findSome?_eq_some_iff]
  constructor
  · rintro ⟨before, b, after, rfl, hb, hbefore⟩
    cases b with
    | text c =>
      obtain rfl := Option.some.inj hb
      exact ⟨before, after, rfl, fun earlier hmem => by simpa using hbefore _ hmem⟩
    | toolCall name i | other => cases hb
  · rintro ⟨before, after, rfl, hfirst⟩
    refine ⟨before, _, after, rfl, rfl, fun b hb => ?_⟩
    cases b with
    | text c => exact absurd hb (hfirst c)
    | toolCall name i | other => rfl

theorem firstText?_eq_none_iff :
    firstText? blocks = none ↔ ∀ content, .text content ∉ blocks := by
  rw [firstText?, List.findSome?_eq_none_iff]
  constructor
  · intro hnone content hmem
    simpa using hnone _ hmem
  · intro huntold b hb
    cases b with
    | text c => exact absurd hb (huntold c)
    | toolCall name i | other => rfl

/-- What an answer says, read from it. -/
def saidIn (blocks : List Block) : Json :=
  match firstCall? blocks with
  | some input => (input.get? "category").getD .null
  | none => ((firstText? blocks).map .text).getD .null

/-- **An answer says one thing.** -/
theorem says_iff : Says blocks v ↔ v = saidIn blocks := by
  constructor
  · rintro (hfirst | ⟨huncalled, hfirst⟩ | ⟨huncalled, huntold⟩)
    · rw [saidIn, firstCall?_eq_some_iff.2 ⟨_, _, rfl, hfirst⟩]
    · rw [saidIn, firstCall?_eq_none_iff.2 huncalled,
        firstText?_eq_some_iff.2 ⟨_, _, rfl, hfirst⟩]
      rfl
    · rw [saidIn, firstCall?_eq_none_iff.2 huncalled, firstText?_eq_none_iff.2 huntold]
      rfl
  · rintro rfl
    cases hcall : firstCall? blocks with
    | some input =>
      rw [saidIn, hcall]
      obtain ⟨before, after, rfl, hfirst⟩ := firstCall?_eq_some_iff.1 hcall
      exact .call hfirst
    | none =>
      have huncalled := firstCall?_eq_none_iff.1 hcall
      cases htext : firstText? blocks with
      | some content =>
        rw [saidIn, hcall, htext]
        obtain ⟨before, after, rfl, hfirst⟩ := firstText?_eq_some_iff.1 htext
        exact .text huncalled hfirst
      | none =>
        rw [saidIn, hcall, htext]
        exact .silence huncalled (firstText?_eq_none_iff.1 htext)

end

/-! ## §2. What a value names. -/

namespace Category

variable {s : String} {c : Category} {v : Json}

theorem ofName?_eq_some_iff : ofName? s = some c ↔ s = c.name := by
  constructor
  · intro h
    rw [ofName?] at h
    have hname := List.find?_some h
    exact (beq_iff_eq.1 hname).symm
  · rintro rfl
    cases c <;> decide

/-- **Which category a text names**: the one whose name it is once it is cleaned, or none
if it is no name. -/
theorem ofText_eq_iff :
    ofText s = c ↔ cleaned s = c.name ∨ c = none ∧ ∀ d : Category, cleaned s ≠ d.name := by
  rw [ofText]
  cases h : ofName? (cleaned s) with
  | some d =>
    have hname := ofName?_eq_some_iff.1 h
    constructor
    · rintro rfl
      exact .inl hname
    · rintro (hc | ⟨-, hall⟩)
      · exact Option.some.inj (h.symm.trans (ofName?_eq_some_iff.2 hc))
      · exact absurd hname (hall d)
  | none =>
    have hall : ∀ d : Category, cleaned s ≠ d.name := fun d hd => by
      rw [ofName?_eq_some_iff.2 hd] at h
      cases h
    constructor
    · rintro rfl
      exact .inr ⟨rfl, hall⟩
    · rintro (hc | ⟨rfl, -⟩)
      · exact absurd hc (hall c)
      · rfl

/-- The category that a value names: a text is read, and no other value names one. -/
def named : Json → Category
  | .text s => ofText s
  | _ => none

end Category

/-- A value that is given and is no text. -/
def Odd (v : Json) : Prop := v.isGiven = true ∧ v.shape ≠ .text

instance (v : Json) : Decidable (Odd v) := inferInstanceAs (Decidable (_ ∧ _))

theorem ofAnswer_of_odd {v : Json} (h : Odd v) :
    Category.ofAnswer v = .error (.noMember v.shape "strip") := by
  rw [Category.ofAnswer, if_pos h.1]
  cases v with
  | text s => exact absurd rfl h.2
  | _ => rfl

theorem ofAnswer_of_not_odd {v : Json} (h : ¬ Odd v) :
    Category.ofAnswer v = .ok (Category.named v) := by
  have hshape : v.isGiven = true → v.shape = .text := fun hgiven =>
    not_not.1 fun hshape => h ⟨hgiven, hshape⟩
  rw [Category.ofAnswer]
  split
  next hgiven =>
    cases v with
    | text s => rfl
    | _ => cases hshape hgiven
  next hgiven =>
    cases v with
    | text s =>
      -- The empty text counts as not given; it is no name either.
      obtain rfl : s = "" := by simpa [Json.isGiven] using hgiven
      decide
    | _ => rfl

theorem ofBlocks_eq (blocks : List Block) :
    Category.ofBlocks blocks = Category.ofAnswer (saidIn blocks) := by
  unfold Category.ofBlocks saidIn
  cases firstCall? blocks with
  | some input => rfl
  | none =>
    cases firstText? blocks with
    | none => rfl
    | some content =>
      have hplain : ¬ Odd (.text content) := fun h => h.2 rfl
      simp only [Option.map_some, Option.getD_some, ofAnswer_of_not_odd hplain]
      rfl

/-! ## §3. Judgements. -/

/-- What an answer of the classifier comes to. -/
def verdict (subject : String) : Except String (List Block) → Except Failure Category
  | .error reason => .error (.classification { reason, subject })
  | .ok blocks => (Category.ofBlocks blocks).mapError .misuse

theorem judge_run (classifier : Classifier) (subject preview : String) :
    (classifier.judge subject preview).run
      = .ask (.classify (classifier.question subject preview)) fun r =>
          .pure (verdict subject r) := by
  show Dialogue.ask _ _ = _
  congr 1
  funext r
  rcases r with reason | blocks
  · rfl
  · show (Program.ofMisuse (Category.ofBlocks blocks)).run
      = Dialogue.pure ((Category.ofBlocks blocks).mapError .misuse)
    cases Category.ofBlocks blocks <;> rfl

/-- **What follows from an answer**: an error of the classifier is reported with the
subject, and an answer is the category of what it says, unless that is odd. -/
inductive Judged (subject : String) :
    Except String (List Block) → Except Failure Category → Prop
  | failed (reason : String) :
      Judged subject (.error reason) (.error (.classification { reason, subject }))
  | understood {blocks : List Block} {v : Json} (said : Says blocks v) (plain : ¬ Odd v) :
      Judged subject (.ok blocks) (.ok (Category.named v))
  | unread {blocks : List Block} {v : Json} (said : Says blocks v) (odd : Odd v) :
      Judged subject (.ok blocks) (.error (.misuse (.noMember v.shape "strip")))

section

variable {subject preview : String} {r : Except String (List Block)} {x : Except Failure Category}
  {σ : Type} {law : Law σ} {s t : σ} {tr : List Event}

theorem judged_iff : Judged subject r x ↔ x = verdict subject r := by
  constructor
  · rintro (_ | ⟨hsaid, hplain⟩ | ⟨hsaid, hodd⟩)
    · rfl
    · obtain rfl := says_iff.1 hsaid
      rw [verdict, ofBlocks_eq, ofAnswer_of_not_odd hplain]
      rfl
    · obtain rfl := says_iff.1 hsaid
      rw [verdict, ofBlocks_eq, ofAnswer_of_odd hodd]
      rfl
  · rintro rfl
    rcases r with reason | blocks
    · exact .failed reason
    · have hsaid : Says blocks (saidIn blocks) := says_iff.2 rfl
      rw [verdict, ofBlocks_eq]
      by_cases hodd : Odd (saidIn blocks)
      · rw [ofAnswer_of_odd hodd]
        exact .unread hsaid hodd
      · rw [ofAnswer_of_not_odd hodd]
        exact .understood hsaid hodd

/-- **A reply costs one question, and its answer decides.**  The runs of a judgement are
those with the question and one answer; each answer has one outcome, which is the error of
the classifier exactly if that could not answer, and else a category unless the answer says
something odd. -/
theorem judge_runs (c : Classifier) :
    (Dialogue.Ends law (c.judge subject preview).run s tr x t ↔
      ∃ r, law s (.classify (c.question subject preview)) r t ∧
        tr = [⟨.classify (c.question subject preview), r⟩] ∧ Judged subject r x) ∧
    ∀ r, (∃! x, Judged subject r x) ∧
      ((∃ e, Judged subject r (.error (.classification e))) ↔ ∃ reason, r = .error reason) ∧
      ∀ blocks, r = .ok blocks →
        ((∃ category, Judged subject r (.ok category)) ↔ ∀ v, Says blocks v → ¬ Odd v) := by
  refine ⟨?_, fun r => ⟨?_, ?_, ?_⟩⟩
  · rw [judge_run]
    constructor
    · intro hrun
      cases hrun with
      | @step _ _ _ s' _ r _ _ lawful rest =>
        obtain ⟨rfl, hx, rfl⟩ := Dialogue.Ends.of_pure rest
        exact ⟨r, lawful, rfl, judged_iff.2 hx.symm⟩
    · rintro ⟨r, lawful, rfl, hjudged⟩
      obtain rfl := judged_iff.1 hjudged
      exact .step lawful (.here _ t)
  · exact ⟨verdict subject r, judged_iff.2 rfl, fun _ => judged_iff.1⟩
  · constructor
    · rintro ⟨e, hjudged⟩
      cases hjudged with
      | failed reason => exact ⟨reason, rfl⟩
    · rintro ⟨reason, rfl⟩
      exact ⟨_, .failed reason⟩
  · rintro blocks rfl
    constructor
    · rintro ⟨category, hjudged⟩ w hw
      cases hjudged with
      | @understood _ v hsaid hplain =>
        rw [says_iff.1 hw, ← says_iff.1 hsaid]
        exact hplain
    · intro hplain
      have hsaid : Says blocks (saidIn blocks) := says_iff.2 rfl
      exact ⟨_, .understood hsaid (hplain _ hsaid)⟩

end

/-! ## §4. A number in place of a name. -/

namespace Sample

/-- A classifier with the cap that is used where nothing is configured. -/
def judgeModel : Classifier := { model := "m" }

/-- An answer that calls the tool with the number five. -/
def numbered : Script where
  judgements := [.ok [.toolCall toolName (.ofFields [("category", .int 5)])]]

end Sample

open Sample in
/-- An answer with a number for the category is neither a category nor reported as an
error of the classifier. -/
theorem number_named :
    ¬ ∀ (c : Classifier) (subject preview : String) (script : Script),
      (∃ category, ((c.judge subject preview).run.run Script.answer script).1 = .ok category) ∨
        ∃ e, ((c.judge subject preview).run.run Script.answer script).1
          = .error (.classification e) := by
  intro h
  have hrun : ((judgeModel.judge "Re: Offer" "Yes").run.run Script.answer numbered).1
      = .error (.misuse (.noMember .int "strip")) := rfl
  rcases h judgeModel "Re: Offer" "Yes" numbered with ⟨category, hok⟩ | ⟨e, herr⟩
  · rw [hrun] at hok
    cases hok
  · rw [hrun] at herr
    cases herr

end Mailroom.Reply
