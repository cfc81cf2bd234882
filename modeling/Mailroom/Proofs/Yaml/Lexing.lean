import Mailroom.Yaml.Lexer
/-!
  Mailroom.Proofs.Yaml.Lexing
  ────────────────────────────────
  **WHAT CAN BE WRONG WITH THE TOKENS OF A TEXT.**

  A text that has no tokens is malformed, with two exceptions: an escape can name a code point
  beyond the last, and the number in a directive can be too long to be read.  Each reader has
  one lemma, put together from those of the readers that it calls.

      Fails                — the faults that may come of a computation
      lexical_quotedFrom   — quoted scalars
      lexical_directive    — directives
      lexical_take         — all tokens
      lexical_ending       — the fault behind the tokens of a text
-/
namespace Mailroom.Yaml

/-! ## §1. The faults of a computation. -/

section

variable {α β : Type} {F G : Fault → Prop} {x : Except Fault α} {f : α → Except Fault β}

/-- Only faults in `F` come of a computation. -/
def Fails (F : Fault → Prop) : Except Fault α → Prop
  | .ok _ => True
  | .error f => F f

theorem fails_pure (a : α) : Fails F (pure a) := trivial

/-- **One computation after the other.** -/
theorem Fails.bind (h : Fails F x) (hf : ∀ a, Fails F (f a)) : Fails F (x >>= f) := by
  cases x with
  | ok a => exact hf a
  | error e => exact h

theorem Fails.ite {c : Prop} [Decidable c] {x y : Except Fault α} (hx : Fails F x)
    (hy : Fails F y) : Fails F (if c then x else y) := by
  split
  · exact hx
  · exact hy

theorem Fails.map (h : Fails F x) (g : α → β) : Fails F (x.map g) := by
  cases x <;> exact h

theorem Fails.of_forall (h : ∀ e, F e) : Fails F x := by
  cases x with
  | ok a => trivial
  | error e => exact h e

theorem Fails.mono (h : Fails F x) (hFG : ∀ e, F e → G e) : Fails G x := by
  cases x with
  | ok a => trivial
  | error e => exact hFG e h

end

/-! ## §2. Lexemes. -/

/-- The faults of readers of tokens. -/
inductive Fault.IsLexical : Fault → Prop where
  | malformed : IsLexical .malformed
  | noSuchCharacter : IsLexical .noSuchCharacter
  | tooManyDigits (n : Nat) : Number.maxDigits < n → IsLexical (.tooManyDigits n)

/-- Only faults of readers of tokens come of a computation. -/
abbrev Lexical {α : Type} (x : Except Fault α) : Prop := Fails Fault.IsLexical x

theorem lexical_expect (b : Bool) : Lexical (expect b) := by
  cases b
  · exact .malformed
  · trivial

section

variable (c : Cursor)

theorem lexical_directiveNumber : Lexical (directiveNumber c) := by
  unfold directiveNumber
  refine .bind (lexical_expect _) fun _ => ?_
  split
  · next hlong => exact .tooManyDigits _ hlong
  · trivial

theorem lexical_tagHandle : Lexical (tagHandle c) := by
  unfold tagHandle
  refine .bind (lexical_expect _) fun _ => ?_
  dsimp only
  split
  · trivial
  · exact .bind (lexical_expect _) fun _ => trivial

theorem lexical_escapedOctets (fuel : Nat) : Lexical (escapedOctets fuel c) := by
  induction fuel generalizing c with
  | zero => trivial
  | succ fuel ih =>
    unfold escapedOctets
    split
    · split
      · exact .bind (ih _) fun _ => trivial
      · exact .malformed
    · exact .malformed
    · trivial

theorem lexical_uriFrom (fuel : Nat) : Lexical (uriFrom fuel c) := by
  induction fuel generalizing c with
  | zero => trivial
  | succ fuel ih =>
    unfold uriFrom
    dsimp only
    split
    · refine .bind (lexical_escapedOctets _ _) fun _ => .bind (lexical_expect _) fun _ => ?_
      exact .bind (ih _) fun _ => trivial
    · trivial

theorem lexical_uri : Lexical (uri c) := by
  unfold uri
  exact .bind (lexical_uriFrom _ _) fun _ => .bind (lexical_expect _) fun _ => trivial

theorem lexical_endOfLine : Lexical (endOfLine c) := by
  unfold endOfLine
  exact .bind (lexical_expect _) fun _ => trivial

theorem lexical_directive : Lexical (directive c) := by
  unfold directive
  refine .bind (lexical_expect _) fun _ => ?_
  dsimp only
  split
  · refine .bind (lexical_directiveNumber _) fun _ => .bind (lexical_expect _) fun _ => ?_
    refine .bind (lexical_directiveNumber _) fun _ => .bind (lexical_expect _) fun _ => ?_
    exact .bind (lexical_endOfLine _) fun _ => trivial
  · split
    · refine .bind (lexical_tagHandle _) fun _ => .bind (lexical_expect _) fun _ => ?_
      refine .bind (lexical_uri _) fun _ => .bind (lexical_expect _) fun _ => ?_
      exact .bind (lexical_endOfLine _) fun _ => trivial
    · exact .bind (lexical_endOfLine _) fun _ => trivial

theorem lexical_anchorName : Lexical (anchorName c) := by
  unfold anchorName
  exact .bind (lexical_expect _) fun _ => trivial

theorem lexical_tagToken : Lexical (tagToken c) := by
  unfold tagToken
  -- All four forms of a tag end in the same way.
  extract_lets finished
  have hfinished : ∀ result, Lexical (pure result >>= finished) :=
    fun _ => .bind (fails_pure _) fun _ => .bind (lexical_expect _) fun _ => trivial
  split
  · exact .bind (lexical_uri _) fun _ => .bind (lexical_expect _) fun _ => hfinished _
  · refine .ite (hfinished _) (.ite ?_ ?_)
    · exact .bind (lexical_tagHandle _) fun _ => .bind (lexical_uri _) fun _ => hfinished _
    · exact .bind (lexical_uri _) fun _ => hfinished _

theorem lexical_breaksInQuotes (fuel : Nat) : Lexical (breaksInQuotes fuel c) := by
  induction fuel generalizing c with
  | zero => trivial
  | succ fuel ih =>
    unfold breaksInQuotes
    refine .bind (lexical_expect _) fun _ => ?_
    dsimp only
    split
    · exact .bind (ih _) fun _ => trivial
    · trivial

theorem lexical_quotedFrom (double : Bool) (fuel : Nat) (acc : List Char) :
    Lexical (quotedFrom double fuel acc c) := by
  induction fuel generalizing acc c with
  | zero => exact .malformed
  | succ fuel ih =>
    unfold quotedFrom
    split
    · exact .malformed
    · refine .ite (ih _ _) (.ite trivial (.ite ?_ (.ite ?_ (ih _ _))))
      · -- An escape: a letter, a code point of some length, or the end of the line.
        split
        · exact .malformed
        · split
          · exact ih _ _
          · dsimp only
            split
            · exact .malformed
            · exact .ite .malformed (.ite .noSuchCharacter (ih _ _))
          · split
            · exact .malformed
            · exact .bind (lexical_breaksInQuotes _ _) fun _ => ih _ _
      · dsimp only
        split
        · exact .bind (lexical_breaksInQuotes _ _) fun _ => ih _ _
        · exact ih _ _

theorem lexical_quotedScalar (double : Bool) : Lexical (quotedScalar double c) := by
  unfold quotedScalar
  exact .bind (lexical_quotedFrom _ _ _ _) fun _ => trivial

theorem lexical_indicators : Lexical (indicators c) := by
  unfold indicators
  exact .bind (lexical_expect _) fun _ => trivial

theorem lexical_blockScalar (fold : Bool) (indent : Int) : Lexical (blockScalar fold indent c) := by
  unfold blockScalar
  exact .bind (lexical_indicators _) fun _ => .bind (lexical_endOfLine _) fun _ => trivial

end

/-! ## §3. Tokens. -/

namespace Lexer

section

variable (s : Lexer)

theorem lexical_dropStale : Lexical s.dropStale := by
  unfold dropStale
  exact .bind (lexical_expect _) fun _ => trivial

theorem lexical_dropCandidate : Lexical s.dropCandidate := by
  unfold dropCandidate
  exact .bind (lexical_expect _) fun _ => trivial

theorem lexical_saveCandidate : Lexical s.saveCandidate := by
  unfold saveCandidate
  exact .ite (.bind (lexical_dropCandidate _) fun _ => trivial) trivial

theorem lexical_finish : Lexical s.finish := by
  unfold finish
  exact .bind (lexical_dropCandidate _) fun _ => trivial

theorem lexical_takeDirective : Lexical s.takeDirective := by
  unfold takeDirective
  exact .bind (lexical_dropCandidate _) fun _ => .bind (lexical_directive _) fun _ => trivial

theorem lexical_takeSeparator (t : Token) : Lexical (s.takeSeparator t) := by
  unfold takeSeparator
  exact .bind (lexical_dropCandidate _) fun _ => trivial

theorem lexical_takeOpening (t : Token) : Lexical (s.takeOpening t) := by
  unfold takeOpening
  exact .bind (lexical_saveCandidate _) fun _ => trivial

theorem lexical_takeClosing (t : Token) : Lexical (s.takeClosing t) := by
  unfold takeClosing
  exact .bind (lexical_expect _) fun _ => .bind (lexical_dropCandidate _) fun _ => trivial

theorem lexical_takeComma : Lexical s.takeComma := by
  unfold takeComma
  exact .bind (lexical_dropCandidate _) fun _ => trivial

theorem lexical_takeEntry : Lexical s.takeEntry := by
  unfold takeEntry
  exact .bind (lexical_expect _) fun _ => .bind (lexical_dropCandidate _) fun _ => trivial

theorem lexical_takeKey : Lexical s.takeKey := by
  unfold takeKey
  exact .bind (lexical_expect _) fun _ => .bind (lexical_dropCandidate _) fun _ => trivial

theorem lexical_takeValue : Lexical s.takeValue := by
  unfold takeValue
  split
  · trivial
  · exact .bind (lexical_expect _) fun _ => .bind (lexical_dropCandidate _) fun _ => trivial

theorem lexical_takeLexeme {read : Lexeme Token} (hread : ∀ c, Lexical (read c)) :
    Lexical (s.takeLexeme read) := by
  unfold takeLexeme
  exact .bind (lexical_saveCandidate _) fun _ => .bind (hread _) fun _ => trivial

theorem lexical_takeBlockScalar (fold : Bool) : Lexical (s.takeBlockScalar fold) := by
  unfold takeBlockScalar
  exact .bind (lexical_dropCandidate _) fun _ => .bind (lexical_blockScalar _ _ _) fun _ => trivial

theorem lexical_takePlain : Lexical s.takePlain := by
  unfold takePlain
  exact .bind (lexical_saveCandidate _) fun _ => trivial

theorem lexical_advance : Lexical s.advance := by
  unfold advance
  exact .bind (lexical_dropStale _) fun _ => trivial

/-- **Any token.** -/
theorem lexical_take (x : Char) : Lexical (s.take x) := by
  unfold take
  refine .ite (lexical_takeDirective s) (.ite (lexical_takeSeparator s _) ?_)
  refine .ite (lexical_takeOpening s _) (.ite (lexical_takeOpening s _) ?_)
  refine .ite (lexical_takeClosing s _) (.ite (lexical_takeClosing s _) ?_)
  refine .ite (lexical_takeComma s) (.ite (lexical_takeEntry s) ?_)
  refine .ite (lexical_takeKey s) (.ite (lexical_takeValue s) ?_)
  refine .ite (lexical_takeLexeme s fun c => .bind (lexical_anchorName c) fun _ => trivial) ?_
  refine .ite (lexical_takeLexeme s fun c => .bind (lexical_anchorName c) fun _ => trivial) ?_
  refine .ite (lexical_takeLexeme s lexical_tagToken) ?_
  refine .ite (lexical_takeBlockScalar s _) (.ite (lexical_takeBlockScalar s _) ?_)
  refine .ite (lexical_takeLexeme s (lexical_quotedScalar · _)) ?_
  refine .ite (lexical_takeLexeme s (lexical_quotedScalar · _)) ?_
  exact .ite (lexical_takePlain s) .malformed

theorem lexical_step : Lexical s.step := by
  unfold step
  refine .bind (lexical_advance s) fun s => ?_
  split
  · exact .bind (lexical_finish s) fun _ => trivial
  · exact .bind (lexical_take s _) fun _ => trivial

end

theorem isLexical_ending_tokensFrom (fuel : Nat) (s : Lexer) :
    (tokensFrom fuel s).ending.IsLexical := by
  induction fuel generalizing s with
  | zero => exact .malformed
  | succ fuel ih =>
    unfold tokensFrom
    -- The fault of this step is the ending, unless a later step has one.
    have hstep := lexical_step s
    split
    · next heq => exact (heq ▸ hstep : Lexical (.error _))
    · exact .malformed
    · exact ih _

end Lexer

/-- **The fault behind the tokens of a text** is one of readers of tokens. -/
theorem isLexical_ending (cs : List Char) : (tokensOf cs).ending.IsLexical := by
  unfold tokensOf
  split
  · exact Lexer.isLexical_ending_tokensFrom _ _
  · dsimp only
    split
    · exact .malformed
    · exact Lexer.isLexical_ending_tokensFrom _ _

end Mailroom.Yaml
