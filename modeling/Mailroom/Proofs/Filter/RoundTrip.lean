import Mailroom.Proofs.Filter.Grammar
import Mailroom.Proofs.Filter.Spelling
/-!
  Mailroom.Proofs.Filter.RoundTrip
  ────────────────────────────────
  **WRITTEN FILTERS ARE READ AS THEY WERE.**

  A tag can be read back if it is one word and no operator.  The text of a tree has the
  tokens that one expects of it, and they derive from the grammar with that tree: at the
  level of NOT, since AND and OR are written in parentheses and NOT is not.

      Expr.Writable.spells  — the tokens of a text, in front of anything that stands apart
      Expr.Writable.derives — they derive with the tree that was written
      Derives.writable      — what derives can be written if its tags can
      parse_text_parse      — writing and reading are inverse to each other
-/
namespace Mailroom.Filter

open Mailroom.Text

/-! ## §1. Trees that can be written. -/

/-- The words that are operators, in any letter case. -/
def operators : List String := ["AND", "OR", "NOT"]

/-- A name that can stand as a tag: it is one word, and no operator. -/
structure IsTagName (name : String) : Prop where
  nonempty : name ≠ ""
  plain : ∀ c ∈ name.toList, isBlank c = false ∧ isParen c = false
  notOperator : ∀ op ∈ operators, isWord op name = false

theorem isTagName_iff {name : String} : IsTagName name ↔
    name ≠ "" ∧ name.toList.all isWordChar = true ∧
      operators.all (fun op => !isWord op name) = true := by
  simp only [List.all_eq_true, isWordChar_iff, Bool.not_eq_true']
  exact ⟨fun h => ⟨h.nonempty, h.plain, h.notOperator⟩, fun h => ⟨h.1, h.2.1, h.2.2⟩⟩

instance (name : String) : Decidable (IsTagName name) := decidable_of_iff _ isTagName_iff.symm

/-- All tags of a tree can be written. -/
def Expr.Writable : Expr → Prop
  | .tag name => IsTagName name
  | .and l r | .or l r => l.Writable ∧ r.Writable
  | .not e => e.Writable

instance decidableWritable : (e : Expr) → Decidable e.Writable
  | .tag name => inferInstanceAs (Decidable (IsTagName name))
  | .and l r | .or l r =>
    @instDecidableAnd l.Writable r.Writable (decidableWritable l) (decidableWritable r)
  | .not e => decidableWritable e

/-- The lexemes of a tree as it is written. -/
def Expr.lexemes : Expr → List (List Char)
  | .tag name => [name.toList]
  | .and l r => ['('] :: l.lexemes ++ "AND".toList :: r.lexemes ++ [[')']]
  | .or l r => ['('] :: l.lexemes ++ "OR".toList :: r.lexemes ++ [[')']]
  | .not e => "NOT".toList :: e.lexemes

section

variable {name : String}

theorem IsTagName.isLexeme (h : IsTagName name) : IsLexeme name.toList :=
  .word (fun hnil => h.nonempty (String.toList_eq_nil_iff.1 hnil))
    fun c hc => isWordChar_iff.2 (h.plain c hc)

/-- A tag is none of the other kinds of tokens. -/
theorem IsTagName.kindOf_eq (h : IsTagName name) : kindOf name = .tag := by
  have hparen : ∀ c, isParen c = true → name ≠ String.singleton c := by
    intro c hc hname
    have hplain := (h.plain c (by simp [hname])).2
    rw [hc] at hplain
    cases hplain
  have hopen : (name == "(") = false := beq_false_of_ne (hparen '(' rfl)
  have hclose : (name == ")") = false := beq_false_of_ne (hparen ')' rfl)
  simp [kindOf, hopen, hclose, h.notOperator "AND" (by decide), h.notOperator "OR" (by decide),
    h.notOperator "NOT" (by decide)]

/-- A lexeme that is a tag to the parser can be written as one. -/
theorem IsTagName.of_kindOf (h : kindOf name = .tag) (hlex : IsLexeme name.toList) :
    IsTagName name := by
  -- Each branch before the last one gives another kind.
  obtain ⟨hopen, hclose, hand, hor, hnot⟩ : name ≠ "(" ∧ name ≠ ")" ∧ isWord "AND" name = false ∧
      isWord "OR" name = false ∧ isWord "NOT" name = false := by
    unfold kindOf at h
    grind
  generalize hw : name.toList = w at hlex
  have hname : name = String.ofList w := by rw [← hw, String.ofList_toList]
  cases hlex with
  | @paren c hc =>
    unfold isParen at hc
    rcases Bool.or_eq_true_iff.1 hc with hc | hc <;> rw [eq_of_beq hc] at hname
    · exact absurd hname hopen
    · exact absurd hname hclose
  | word hne hword =>
    refine ⟨fun hempty => hne ?_, fun c hc => isWordChar_iff.1 (hword c (hw ▸ hc)), ?_⟩
    · rw [← hw, hempty]
      rfl
    · simpa [operators] using ⟨hand, hor, hnot⟩

end

/-! ## §2. What is written. -/

section

variable {e : Expr}

theorem apart_space (cs : List Char) : Apart (' ' :: cs) := apart_cons.2 (by decide)

theorem apart_close (cs : List Char) : Apart (')' :: cs) := apart_cons.2 (by decide)

theorem isLexeme_operator (op : String) (h : op ∈ operators) : IsLexeme op.toList := by
  have hnonempty : operators.all (fun op => !op.toList.isEmpty) = true := by decide
  have hword : operators.all (fun op => op.toList.all isWordChar) = true := by decide
  refine .word ?_ (List.all_eq_true.1 (List.all_eq_true.1 hword op h))
  simpa using List.all_eq_true.1 hnonempty op h

/-- A text is read as the lexemes of a tree, in front of anything that stands apart. -/
def Spells (e : Expr) : Prop :=
  ∀ rest, Apart rest → Filter.lexemes (e.text.toList ++ rest) = e.lexemes ++ Filter.lexemes rest

/-- A group with an operator is spelled if its operands are. -/
theorem Spells.group (op : String) (hop : op ∈ operators) {l r : Expr} (hl : Spells l)
    (hr : Spells r) (rest : List Char) :
    lexemes ('(' :: (l.text.toList ++ ' ' :: (op.toList ++ ' ' :: (r.text.toList ++ ')' :: rest))))
      = ['('] :: (l.lexemes ++ op.toList :: (r.lexemes ++ [')'] :: lexemes rest)) := by
  rw [lexemes_paren rfl, hl _ (apart_space _), lexemes_blank (by decide),
    lexemes_append (isLexeme_operator op hop) (apart_space _), lexemes_blank (by decide),
    hr _ (apart_close _), lexemes_paren rfl]

/-- **The text of a tree has the lexemes of the tree**, by induction on it. -/
theorem Expr.Writable.spells (h : e.Writable) : Spells e := by
  induction e with
  | tag name => exact fun rest hrest => lexemes_append h.isLexeme hrest
  | and l r ihl ihr =>
    intro rest _
    have hgroup := Spells.group "AND" (by decide) (ihl h.1) (ihr h.2) rest
    simpa [Expr.text, Expr.lexemes] using hgroup
  | or l r ihl ihr =>
    intro rest _
    have hgroup := Spells.group "OR" (by decide) (ihl h.1) (ihr h.2) rest
    simpa [Expr.text, Expr.lexemes] using hgroup
  | not e ih =>
    intro rest hrest
    have hnot : Filter.lexemes ("NOT".toList ++ ' ' :: (e.text.toList ++ rest))
        = "NOT".toList :: Filter.lexemes (e.text.toList ++ rest) := by
      rw [lexemes_append (isLexeme_operator "NOT" (by decide)) (apart_space _),
        lexemes_blank (by decide)]
    rw [ih h rest hrest] at hnot
    simpa [Expr.text, Expr.lexemes] using hnot

theorem tokenize_text (h : e.Writable) : tokenize e.text = number 0 e.lexemes := by
  have hspells := h.spells [] apart_nil
  rw [List.append_nil] at hspells
  rw [tokenize, hspells]
  exact congrArg (number 0) (List.append_nil _)

/-! ## §3. What is written derives. -/

/-- The tokens of a group: those of its operands, between those that make it one. -/
theorem number_group (op : String) (ls rs : List (List Char)) (n : Nat) :
    ∃ p q, number n (['('] :: ls ++ op.toList :: rs ++ [[')']])
      = ⟨.lparen, "(", n⟩ :: (number (n + 1) ls ++ ⟨kindOf op, op, p⟩ :: number (p + 1) rs)
        ++ [⟨.rparen, ")", q⟩] := by
  refine ⟨n + 1 + ls.length, n + 1 + ls.length + 1 + rs.length, ?_⟩
  have hop : number (n + 1 + ls.length) (op.toList :: rs)
      = ⟨kindOf op, op, n + 1 + ls.length⟩ :: number (n + 1 + ls.length + 1) rs := by
    rw [number, String.ofList_toList]
  have hclose : number (n + 1 + ls.length + 1 + rs.length) [[')']]
      = [⟨.rparen, ")", n + 1 + ls.length + 1 + rs.length⟩] := rfl
  show _ :: number (n + 1) (ls ++ op.toList :: rs ++ [[')']]) = _
  rw [number_append, number_append, hop, List.length_append, List.length_cons,
    ← Nat.add_assoc, ← Nat.add_assoc, Nat.add_right_comm _ rs.length 1, hclose]
  rfl

/-- **What is written derives**, wherever its tokens stand; by induction on the tree. -/
theorem Expr.Writable.derives (h : e.Writable) (n : Nat) :
    Derives .not (number n e.lexemes) e := by
  induction e generalizing n with
  | tag name =>
    have htag := Derives.tag (t := ⟨kindOf name, name, n⟩) h.kindOf_eq
    simpa [Expr.lexemes, number] using Derives.notOfAtom htag
  | and l r ihl ihr =>
    obtain ⟨p, q, heq⟩ := number_group "AND" l.lexemes r.lexemes n
    rw [Expr.lexemes, heq]
    exact .notOfAtom (.group rfl (.orOfAnd (.and (.andOfNot (ihl h.1 _)) rfl (ihr h.2 _))) rfl)
  | or l r ihl ihr =>
    obtain ⟨p, q, heq⟩ := number_group "OR" l.lexemes r.lexemes n
    rw [Expr.lexemes, heq]
    exact .notOfAtom (.group rfl
      (.or (.orOfAnd (.andOfNot (ihl h.1 _))) rfl (.andOfNot (ihr h.2 _))) rfl)
  | not e ih => exact .not (t := ⟨.not, "NOT", n⟩) rfl (ih h (n + 1))

/-- **A tree is read back from its text** if its tags can be written. -/
theorem Expr.Writable.parse_text (h : e.Writable) : parse e.text = .ok e := by
  rw [parse_eq_ok_iff, tokenize_text h]
  exact .orOfAnd (.andOfNot (h.derives 0))

/-! ## §4. What is read can be written. -/

/-- The tags of a tree are those of the tokens that it derives from. -/
theorem Derives.writable {level : Level} {ts : List Token} (h : Derives level ts e)
    (hts : ∀ t ∈ ts, t.kind = .tag → IsTagName t.text) : e.Writable := by
  induction h with
  | or _ _ _ hl hr | and _ _ _ hl hr =>
    exact ⟨hl fun t ht => hts t (by simp [ht]), hr fun t ht => hts t (by simp [ht])⟩
  | orOfAnd _ hinner | andOfNot _ hinner | notOfAtom _ hinner => exact hinner hts
  | not _ _ hoperand => exact hoperand fun t ht => hts t (List.mem_cons_of_mem _ ht)
  | group _ _ _ hinner => exact hinner fun t ht => hts t (by simp [ht])
  | @tag t ht => exact hts t List.mem_cons_self ht

theorem IsTagName.of_tokenize {filter : String} {t : Token} (ht : t ∈ tokenize filter)
    (htag : t.kind = .tag) : IsTagName t.text := by
  obtain ⟨hkind, htext⟩ := of_mem_number ht
  exact .of_kindOf (hkind ▸ htag) (.of_mem htext)

/-- **Writing and reading are inverse to each other.**  A tree is read back from its text
if its tags can be written: if each is one word and no operator.  The trees that are
read are of this kind, so reading, writing and reading again gives the same tree. -/
theorem parse_text_parse :
    (∀ e : Expr, e.Writable → parse e.text = .ok e) ∧
    ∀ filter e, parse filter = .ok e → e.Writable ∧ parse e.text = .ok e := by
  refine ⟨fun e he => he.parse_text, fun filter e h => ?_⟩
  have he : e.Writable := (parse_eq_ok_iff.1 h).writable fun t => IsTagName.of_tokenize
  exact ⟨he, he.parse_text⟩

/-- A filter without parentheses, which is written with them and read back. -/
theorem parse_text_parse_sample :
    let e : Expr := .or (.tag "a") (.and (.tag "b") (.not (.tag "c")))
    e.Writable ∧ e.text = "(a OR (b AND NOT c))" ∧ parse "(a OR (b AND NOT c))" = .ok e ∧
      parse "a or b AND NOT c" = .ok e := by
  intro e
  have hwritable : e.Writable := by decide +kernel
  have htokens : tokenize "a or b AND NOT c" = [⟨.tag, "a", 0⟩] ++ ⟨.or, "or", 1⟩ ::
      ([⟨.tag, "b", 2⟩] ++ ⟨.and, "AND", 3⟩ :: [⟨.not, "NOT", 4⟩, ⟨.tag, "c", 5⟩]) := by
    decide +kernel
  have htag : ∀ name n, Derives .not [⟨.tag, name, n⟩] (.tag name) :=
    fun _ _ => .notOfAtom (.tag rfl)
  have hread : parse "a or b AND NOT c" = .ok e := by
    rw [parse_eq_ok_iff, htokens]
    exact .or (.orOfAnd (.andOfNot (htag "a" 0))) rfl
      (.and (.andOfNot (htag "b" 2)) rfl (.not rfl (htag "c" 5)))
  exact ⟨(parse_text_parse.2 _ e hread).1, by decide +kernel, parse_text_parse.1 e hwritable, hread⟩

end

end Mailroom.Filter
