import Mailroom.Filter.Syntax
/-!
  Mailroom.Proofs.Filter.Grammar
  ────────────────────────────────
  **THE GRAMMAR OF TAG FILTERS, AND THAT THE PARSER READS EXACTLY IT.**

  `Derives` gives the trees of token lists by rules, one for each way in which an
  expression is built.  A chain of OR is an expression of the same level on its left
  and one of the next level on its right, so chains associate to the left; a level
  contains the tighter ones, and a parenthesis takes an expression of the loosest level
  into the tightest one.

      reads_calls       — what the parser reads derives from the grammar
      Derives.completes — what derives is read, whatever tokens follow it that cannot
                          go on with it
      parse_grammar     — both, for whole filters, and that trees are unique
-/
namespace Mailroom.Filter

/-! ## §1. The grammar. -/

/-- The levels of expressions, from the loosest to the tightest binding. -/
inductive Level where
  | or | and | not | atom
  deriving Repr, DecidableEq

/-- A token list derives from a level of expressions, with a tree. -/
inductive Derives : Level → List Token → Expr → Prop
  | or {ts us : List Token} {t : Token} {l r : Expr} (left : Derives .or ts l)
      (operator : t.kind = .or) (right : Derives .and us r) : Derives .or (ts ++ t :: us) (.or l r)
  | orOfAnd {ts : List Token} {e : Expr} (inner : Derives .and ts e) : Derives .or ts e
  | and {ts us : List Token} {t : Token} {l r : Expr} (left : Derives .and ts l)
      (operator : t.kind = .and) (right : Derives .not us r) :
      Derives .and (ts ++ t :: us) (.and l r)
  | andOfNot {ts : List Token} {e : Expr} (inner : Derives .not ts e) : Derives .and ts e
  | not {ts : List Token} {t : Token} {e : Expr} (operator : t.kind = .not)
      (operand : Derives .not ts e) : Derives .not (t :: ts) (.not e)
  | notOfAtom {ts : List Token} {e : Expr} (inner : Derives .atom ts e) : Derives .not ts e
  | group {ts : List Token} {t u : Token} {e : Expr} (opened : t.kind = .lparen)
      (inner : Derives .or ts e) (closed : u.kind = .rparen) : Derives .atom (t :: ts ++ [u]) e
  | tag {t : Token} (word : t.kind = .tag) : Derives .atom [t] (.tag t.text)

/-- An atom starts with a parenthesis or a tag. -/
theorem Derives.head_atom {ts : List Token} {e : Expr} (h : Derives .atom ts e) :
    ∃ t us, ts = t :: us ∧ t.kind ≠ .not := by
  cases h with
  | group opened _ _ => exact ⟨_, _, rfl, by rw [opened]; decide⟩
  | tag word => exact ⟨_, _, rfl, by rw [word]; decide⟩

/-! ## §2. The steps of the parser. -/

/-- A token list does not go on with a token of a kind. -/
def Unlike (k : Kind) (ts : List Token) : Prop := ∀ t ∈ ts.head?, t.kind ≠ k

theorem unlike_nil (k : Kind) : Unlike k [] := nofun

theorem unlike_cons {k : Kind} {t : Token} {ts : List Token} : Unlike k (t :: ts) ↔ t.kind ≠ k := by
  simp [Unlike]

section

variable {ts us : List Token} {t : Token} {p : Parsed ts} {q : Parsed us} {f : Fault}

/-- What is read behind a token of what is left leaves less than that. -/
theorem Parsed.shorter_behind (p : Parsed ts) (hrest : p.rest = t :: us) (q : Parsed us) :
    q.rest.length < ts.length := by
  have hp := p.shorter
  have hq := q.shorter
  rw [hrest, List.length_cons] at hp
  omega

theorem parseOr_of_ok (h : parseAnd ts = .ok p) : parseOr ts = orTail ts p := by
  rw [parseOr, h]

theorem parseOr_of_error (h : parseAnd ts = .error f) : parseOr ts = .error f := by
  rw [parseOr, h]

theorem orTail_of_unlike (h : Unlike .or p.rest) : orTail ts p = .ok p := by
  rw [orTail]
  split
  next => rfl
  next t rest hrest =>
    rw [hrest, unlike_cons] at h
    rw [if_neg h]

theorem orTail_of_or (hrest : p.rest = t :: us) (ht : t.kind = .or) :
    orTail ts p = match parseAnd us with
      | .error f => .error f
      | .ok q => orTail ts ⟨.or p.expr q.expr, q.rest, p.shorter_behind hrest q⟩ := by
  rw [orTail]
  split
  next hnil =>
    rw [hrest] at hnil
    cases hnil
  next t' rest hcons =>
    rw [hrest] at hcons
    cases hcons
    exact if_pos ht

theorem parseAnd_of_ok (h : parseNot ts = .ok p) : parseAnd ts = andTail ts p := by
  rw [parseAnd, h]

theorem parseAnd_of_error (h : parseNot ts = .error f) : parseAnd ts = .error f := by
  rw [parseAnd, h]

theorem andTail_of_unlike (h : Unlike .and p.rest) : andTail ts p = .ok p := by
  rw [andTail]
  split
  next => rfl
  next t rest hrest =>
    rw [hrest, unlike_cons] at h
    rw [if_neg h]

theorem andTail_of_and (hrest : p.rest = t :: us) (ht : t.kind = .and) :
    andTail ts p = match parseNot us with
      | .error f => .error f
      | .ok q => andTail ts ⟨.and p.expr q.expr, q.rest, p.shorter_behind hrest q⟩ := by
  rw [andTail]
  split
  next hnil =>
    rw [hrest] at hnil
    cases hnil
  next t' rest hcons =>
    rw [hrest] at hcons
    cases hcons
    exact if_pos ht

theorem parseNot_of_not (us : List Token) (ht : t.kind = .not) :
    parseNot (t :: us) = match parseNot us with
      | .error f => .error f
      | .ok q => .ok ⟨.not q.expr, q.rest, Nat.lt_succ_of_lt q.shorter⟩ := by
  rw [parseNot]
  exact if_pos ht

theorem parseNot_of_ne (ht : t.kind ≠ .not) : parseNot (t :: us) = parseAtom (t :: us) := by
  rw [parseNot, if_neg ht]

/-- The closing parenthesis of a group is one that follows the expression in it. -/
theorem parseAtom_of_group (ht : t.kind = .lparen) (hq : parseOr us = .ok q) {u : Token}
    {rest : List Token} (hrest : q.rest = u :: rest) :
    ∃ hshorter, parseAtom (t :: us)
      = if u.kind = .rparen then .ok ⟨q.expr, rest, hshorter⟩ else .error (.closingExpected u) := by
  have hshorter : rest.length < (t :: us).length := by
    have hq := q.shorter
    rw [hrest, List.length_cons] at hq
    rw [List.length_cons]
    omega
  refine ⟨hshorter, ?_⟩
  rw [parseAtom, if_pos ht, hq]
  dsimp only
  split
  next hnil =>
    rw [hrest] at hnil
    cases hnil
  next u' rest' hcons =>
    rw [hrest] at hcons
    cases hcons
    rfl

theorem parseAtom_of_unclosed (ht : t.kind = .lparen) (hq : parseOr us = .ok q)
    (hrest : q.rest = []) : parseAtom (t :: us) = .error (.unclosed t.position) := by
  rw [parseAtom, if_pos ht, hq]
  dsimp only
  split
  next => rfl
  next u rest hcons =>
    rw [hrest] at hcons
    cases hcons

theorem parseAtom_of_error (ht : t.kind = .lparen) (h : parseOr us = .error f) :
    parseAtom (t :: us) = .error f := by
  rw [parseAtom, if_pos ht, h]

theorem parseAtom_of_ne (us : List Token) (ht : t.kind ≠ .lparen) : parseAtom (t :: us)
    = if t.kind = .tag then .ok ⟨.tag t.text, us, Nat.lt_succ_self _⟩
      else .error (.operandExpected t) := by
  rw [parseAtom, if_neg ht]

end

/-! ## §3. What is read derives from the grammar. -/

/-- If a parsing function has a result, then the tokens that it took derive from a
level with the tree that it gives. -/
def Reads (level : Level) (ts : List Token) (x : Except Fault (Parsed ts)) : Prop :=
  ∀ p, x = .ok p → ∃ used, ts = used ++ p.rest ∧ Derives level used p.expr

section

variable {ts us : List Token} {t : Token} {level : Level}

theorem Reads.error (f : Fault) : Reads level ts (.error f) := nofun

theorem Reads.ok {p : Parsed ts} {used : List Token} (hused : ts = used ++ p.rest)
    (h : Derives level used p.expr) : Reads level ts (.ok p) := by
  intro p' hp'
  cases hp'
  exact ⟨used, hused, h⟩

/-- The end of a chain of OR derives as it stands. -/
theorem Reads.orTail {p : Parsed ts} (hstop : Unlike .or p.rest) (used : List Token)
    (hused : ts = used ++ p.rest) (h : Derives .or used p.expr) :
    Reads .or ts (orTail ts p) := by
  rw [orTail_of_unlike hstop]
  exact .ok hused h

/-- The end of a chain of AND derives as it stands. -/
theorem Reads.andTail {p : Parsed ts} (hstop : Unlike .and p.rest) (used : List Token)
    (hused : ts = used ++ p.rest) (h : Derives .and used p.expr) :
    Reads .and ts (andTail ts p) := by
  rw [andTail_of_unlike hstop]
  exact .ok hused h

end

/-- **What the parser reads derives from the grammar**, by induction along its calls.
A loop is entered with what was read before it, which derives from its level. -/
theorem reads_calls : (∀ ts, Reads .or ts (parseOr ts)) ∧
    (∀ ts (p : Parsed ts), ∀ used, ts = used ++ p.rest → Derives .or used p.expr →
      Reads .or ts (orTail ts p)) ∧
    (∀ ts, Reads .and ts (parseAnd ts)) ∧
    (∀ ts (p : Parsed ts), ∀ used, ts = used ++ p.rest → Derives .and used p.expr →
      Reads .and ts (andTail ts p)) ∧
    (∀ ts, Reads .not ts (parseNot ts)) ∧ ∀ ts, Reads .atom ts (parseAtom ts) := by
  refine parseOr.mutual_induct
    (fun ts => Reads .or ts (parseOr ts))
    (fun ts p => ∀ used, ts = used ++ p.rest → Derives .or used p.expr →
      Reads .or ts (orTail ts p))
    (fun ts => Reads .and ts (parseAnd ts))
    (fun ts p => ∀ used, ts = used ++ p.rest → Derives .and used p.expr →
      Reads .and ts (andTail ts p))
    (fun ts => Reads .not ts (parseNot ts))
    (fun ts => Reads .atom ts (parseAtom ts))
    ?orFails ?orStarts ?orEnds ?orOperandFails ?orGoesOn ?orStops
    ?andFails ?andStarts ?andEnds ?andOperandFails ?andGoesOn ?andStops
    ?notMissing ?notFails ?notReads ?notAtom
    ?atomMissing ?groupFails ?groupUnclosed ?groupReads ?groupBroken ?tagReads ?atomFails
  case orFails =>
    intro ts f h _
    rw [parseOr_of_error h]
    exact .error f
  case orStarts =>
    intro ts p h hand htail
    obtain ⟨used, hused, hd⟩ := hand p h
    rw [parseOr_of_ok h]
    exact htail used hused (.orOfAnd hd)
  case orEnds => exact fun ts p h => .orTail (h ▸ unlike_nil _)
  case orStops => exact fun ts p t rest h ht => .orTail (h ▸ unlike_cons.2 ht)
  case orOperandFails =>
    intro ts p t rest hrest ht f h _ _ _ _
    rw [orTail_of_or hrest ht, h]
    exact .error f
  case orGoesOn =>
    intro ts p t rest hrest ht q h hand htail used hused hd
    obtain ⟨more, hmore, hd'⟩ := hand q h
    rw [orTail_of_or hrest ht, h]
    rw [hrest, hmore] at hused
    -- All that was read so far becomes the left operand, so the chain associates to the left.
    exact htail (used ++ t :: more) (by simpa using hused) (.or hd ht hd')
  case andFails =>
    intro ts f h _
    rw [parseAnd_of_error h]
    exact .error f
  case andStarts =>
    intro ts p h hnot htail
    obtain ⟨used, hused, hd⟩ := hnot p h
    rw [parseAnd_of_ok h]
    exact htail used hused (.andOfNot hd)
  case andEnds => exact fun ts p h => .andTail (h ▸ unlike_nil _)
  case andStops => exact fun ts p t rest h ht => .andTail (h ▸ unlike_cons.2 ht)
  case andOperandFails =>
    intro ts p t rest hrest ht f h _ _ _ _
    rw [andTail_of_and hrest ht, h]
    exact .error f
  case andGoesOn =>
    intro ts p t rest hrest ht q h hnot htail used hused hd
    obtain ⟨more, hmore, hd'⟩ := hnot q h
    rw [andTail_of_and hrest ht, h]
    rw [hrest, hmore] at hused
    exact htail (used ++ t :: more) (by simpa using hused) (.and hd ht hd')
  case notMissing =>
    rw [parseNot]
    exact .error _
  case notFails =>
    intro t rest ht f h _
    rw [parseNot_of_not _ ht, h]
    exact .error f
  case notReads =>
    intro t rest ht q h hnot
    obtain ⟨used, hused, hd⟩ := hnot q h
    rw [parseNot_of_not _ ht, h]
    exact .ok (congrArg (t :: ·) hused) (.not ht hd)
  case notAtom =>
    intro t rest ht hatom p hp
    rw [parseNot_of_ne ht] at hp
    obtain ⟨used, hused, hd⟩ := hatom p hp
    exact ⟨used, hused, .notOfAtom hd⟩
  case atomMissing =>
    rw [parseAtom]
    exact .error _
  case groupFails =>
    intro t rest ht f h _
    rw [parseAtom_of_error ht h]
    exact .error f
  case groupUnclosed =>
    intro t rest ht q h hnil _
    rw [parseAtom_of_unclosed ht h hnil]
    exact .error _
  case groupReads =>
    intro t rest ht q h u after hrest hu hor
    obtain ⟨used, hused, hd⟩ := hor q h
    obtain ⟨hshorter, heq⟩ := parseAtom_of_group ht h hrest
    rw [heq, if_pos hu]
    rw [hrest] at hused
    exact .ok (congrArg (t :: ·) (by simpa using hused)) (.group ht hd hu)
  case groupBroken =>
    intro t rest ht q h u after hrest hu _
    obtain ⟨hshorter, heq⟩ := parseAtom_of_group ht h hrest
    rw [heq, if_neg hu]
    exact .error _
  case tagReads =>
    intro t rest hparen ht
    rw [parseAtom_of_ne _ hparen, if_pos ht]
    exact .ok (congrArg (t :: ·) (List.nil_append rest).symm) (.tag ht)
  case atomFails =>
    intro t rest hparen ht
    rw [parseAtom_of_ne _ hparen, if_neg ht]
    exact .error _

theorem Derives.of_parseOr (ts : List Token) : Reads .or ts (parseOr ts) := reads_calls.1 ts

theorem Derives.of_parseAnd (ts : List Token) : Reads .and ts (parseAnd ts) := reads_calls.2.2.1 ts

theorem Derives.of_parseNot (ts : List Token) : Reads .not ts (parseNot ts) :=
  reads_calls.2.2.2.2.1 ts

/-! ## §4. What derives from the grammar is read. -/

/-- The function of a level reads some tokens with a tree, whatever follows them.  For a
chain it comes to the loop with that tree, where a token that follows may go on with
it; an OR leaves no AND to what follows. -/
def Completes (used : List Token) (e : Expr) : Level → Prop
  | .or => ∀ rest, Unlike .and rest → ∃ p : Parsed (used ++ rest),
      p.expr = e ∧ p.rest = rest ∧ parseOr (used ++ rest) = orTail (used ++ rest) p
  | .and => ∀ rest, ∃ p : Parsed (used ++ rest),
      p.expr = e ∧ p.rest = rest ∧ parseAnd (used ++ rest) = andTail (used ++ rest) p
  | .not => ∀ rest, ∃ p : Parsed (used ++ rest),
      p.expr = e ∧ p.rest = rest ∧ parseNot (used ++ rest) = .ok p
  | .atom => ∀ rest, ∃ p : Parsed (used ++ rest),
      p.expr = e ∧ p.rest = rest ∧ parseAtom (used ++ rest) = .ok p

section

variable {used : List Token} {e : Expr}

/-- An AND chain ends where no AND follows. -/
theorem Completes.parseAnd (h : Completes used e .and) {rest : List Token}
    (hrest : Unlike .and rest) :
    ∃ p : Parsed (used ++ rest), p.expr = e ∧ p.rest = rest ∧ parseAnd (used ++ rest) = .ok p := by
  obtain ⟨p, he, hp, heq⟩ := h rest
  rw [andTail_of_unlike (hp.symm ▸ hrest)] at heq
  exact ⟨p, he, hp, heq⟩

/-- An OR chain ends where neither an AND nor an OR follows. -/
theorem Completes.parseOr (h : Completes used e .or) {rest : List Token}
    (hand : Unlike .and rest) (hor : Unlike .or rest) :
    ∃ p : Parsed (used ++ rest), p.expr = e ∧ p.rest = rest ∧ parseOr (used ++ rest) = .ok p := by
  obtain ⟨p, he, hp, heq⟩ := h rest hand
  rw [orTail_of_unlike (hp.symm ▸ hor)] at heq
  exact ⟨p, he, hp, heq⟩

end

/-- **What derives from the grammar is read**, by induction on the derivation. -/
theorem Derives.completes {level : Level} {used : List Token} {e : Expr}
    (h : Derives level used e) : Completes used e level := by
  induction h with
  | @or ts us t l r _ ht _ hleft hright =>
    intro rest hrest
    rw [List.append_assoc, List.cons_append]
    -- The left operand is read up to the operator, where the loop goes on.
    obtain ⟨p, rfl, hp, heq⟩ := hleft (t :: (us ++ rest)) (unlike_cons.2 (by rw [ht]; decide))
    obtain ⟨q, rfl, hq, hread⟩ := hright.parseAnd hrest
    rw [orTail_of_or hp ht, hread] at heq
    exact ⟨_, rfl, hq, heq⟩
  | orOfAnd _ hinner =>
    intro rest hrest
    obtain ⟨p, he, hp, heq⟩ := hinner.parseAnd hrest
    exact ⟨p, he, hp, parseOr_of_ok heq⟩
  | @and ts us t l r _ ht _ hleft hright =>
    intro rest
    rw [List.append_assoc, List.cons_append]
    obtain ⟨p, rfl, hp, heq⟩ := hleft (t :: (us ++ rest))
    obtain ⟨q, rfl, hq, hread⟩ := hright rest
    rw [andTail_of_and hp ht, hread] at heq
    exact ⟨_, rfl, hq, heq⟩
  | andOfNot _ hinner =>
    intro rest
    obtain ⟨p, he, hp, heq⟩ := hinner rest
    exact ⟨p, he, hp, parseAnd_of_ok heq⟩
  | @not ts t e ht _ hoperand =>
    intro rest
    obtain ⟨q, rfl, hq, hread⟩ := hoperand rest
    have heq := parseNot_of_not (ts ++ rest) ht
    rw [hread] at heq
    exact ⟨_, rfl, hq, heq⟩
  | @notOfAtom ts e hatom hinner =>
    intro rest
    obtain ⟨p, he, hp, heq⟩ := hinner rest
    -- Only its first token tells that an atom stands here, and not a NOT.
    obtain ⟨t, us, rfl, ht⟩ := hatom.head_atom
    exact ⟨p, he, hp, (parseNot_of_ne ht).trans heq⟩
  | @group ts t u e ht _ hu hinner =>
    intro rest
    rw [List.append_assoc, List.cons_append]
    -- The expression inside ends at the closing parenthesis.
    have hends : ∀ k, .rparen ≠ k → Unlike k (u :: rest) := fun k hk => unlike_cons.2 (hu ▸ hk)
    obtain ⟨q, rfl, hq, hread⟩ := hinner.parseOr (hends .and (by decide)) (hends .or (by decide))
    obtain ⟨hshorter, heq⟩ := parseAtom_of_group ht hread hq
    rw [if_pos hu] at heq
    exact ⟨_, rfl, rfl, heq⟩
  | @tag t ht =>
    intro rest
    have hne : t.kind ≠ .lparen := by rw [ht]; decide
    have heq := parseAtom_of_ne rest hne
    rw [if_pos ht] at heq
    exact ⟨_, rfl, rfl, heq⟩

/-! ## §5. Whole filters. -/

theorem parseTokens_eq_ok_iff {ts : List Token} {e : Expr} :
    parseTokens ts = .ok e ↔ Derives .or ts e := by
  constructor
  · intro h
    unfold parseTokens at h
    split at h
    · cases h
    next p hp =>
      split at h
      next hrest =>
        cases h
        obtain ⟨used, hused, hd⟩ := Derives.of_parseOr ts p hp
        rw [hrest, List.append_nil] at hused
        exact hused ▸ hd
      · cases h
  · intro h
    have hread := h.completes.parseOr (unlike_nil .and) (unlike_nil .or)
    rw [List.append_nil] at hread
    obtain ⟨p, rfl, hp, heq⟩ := hread
    unfold parseTokens
    rw [heq]
    dsimp only
    rw [hp]

theorem parse_eq_ok_iff {filter : String} {e : Expr} :
    parse filter = .ok e ↔ Derives .or (tokenize filter) e := by
  rw [← parseTokens_eq_ok_iff]
  unfold parse
  cases h : parseTokens (tokenize filter) <;> simp

/-- A token list has one tree at most. -/
theorem Derives.unique {ts : List Token} {e e' : Expr} (h : Derives .or ts e)
    (h' : Derives .or ts e') : e = e' := by
  rw [← parseTokens_eq_ok_iff] at h h'
  rw [h] at h'
  exact Except.ok.inj h'

/-- **The parser accepts exactly the grammar.**  A filter is read as a tree just when its
tokens derive from the loosest level with that tree.  Every filter has one tree, which
is the one that is read, or it has none and is refused with a syntax error. -/
theorem parse_grammar (filter : String) :
    (∀ e, parse filter = .ok e ↔ Derives .or (tokenize filter) e) ∧
    ((∃ e, parse filter = .ok e ∧ ∀ e', Derives .or (tokenize filter) e' ↔ e' = e) ∨
      (¬ ∃ e, Derives .or (tokenize filter) e) ∧
        ∃ fault, parse filter = .error ⟨filter, fault⟩) := by
  refine ⟨fun e => parse_eq_ok_iff, ?_⟩
  cases h : parseTokens (tokenize filter) with
  | ok e =>
    have hd := parseTokens_eq_ok_iff.1 h
    exact .inl ⟨e, parse_eq_ok_iff.2 hd, fun e' => ⟨fun h' => h'.unique hd, fun h' => h' ▸ hd⟩⟩
  | error fault =>
    refine .inr ⟨fun hsome => ?_, fault, ?_⟩
    · obtain ⟨e, hd⟩ := hsome
      rw [parseTokens_eq_ok_iff.2 hd] at h
      cases h
    · unfold parse
      rw [h]

end Mailroom.Filter
