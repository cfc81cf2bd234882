import Mailroom.Proofs.Filter.Grammar
import Mailroom.Proofs.Filter.Spelling
/-!
  Mailroom.Proofs.Filter.Viable
  ────────────────────────────────
  **A SYNTAX ERROR STANDS AT THE FIRST IMPOSSIBLE TOKEN.**

  What stands in front of an error can be completed to a filter, and no filter goes on
  from there with the token of the error.  For the first part, what a function of the
  parser has read before it fails is completed by lexemes, and each caller puts its own
  tokens around that.  For the second one, a machine with two registers walks along
  every filter, the number of open parentheses and whether an operand is due, and it
  cannot take the token of the error.

      Derives.walks — the machine walks along what derives
      breaks_calls  — every error of the parser stands where the machine is stuck, behind
                      tokens that can be completed
      parse_refused — errors of whole filters stand at the first impossible token
-/
namespace Mailroom.Filter

/-! ## §1. Which tokens can follow. -/

/-- Where one stands in a filter: how many parentheses are open, and whether an operand is
due or has just ended. -/
structure Stage where
  depth : Nat
  due : Bool
  deriving Repr, DecidableEq

/-- Where one stands behind a token; nowhere, if it cannot stand here. -/
def Stage.step : Stage → Kind → Option Stage
  | ⟨d, true⟩, .tag => some ⟨d, false⟩
  | ⟨d, true⟩, .not => some ⟨d, true⟩
  | ⟨d, true⟩, .lparen => some ⟨d + 1, true⟩
  | ⟨d, false⟩, .and => some ⟨d, true⟩
  | ⟨d, false⟩, .or => some ⟨d, true⟩
  | ⟨d + 1, false⟩, .rparen => some ⟨d, false⟩
  | _, _ => none

/-- Where one stands behind some tokens. -/
def Stage.walk (s : Stage) (ts : List Token) : Option Stage := ts.foldlM (·.step ·.kind) s

section

variable {s s' : Stage} {t : Token} {ts us : List Token} {e : Expr} {level : Level} {d : Nat}

theorem Stage.walk_cons (s' : Stage) (h : s.step t.kind = some s') :
    s.walk (t :: ts) = s'.walk ts := by
  simp [walk, h]

theorem Stage.walk_cons_none (h : s.step t.kind = none) : s.walk (t :: ts) = none := by
  simp [walk, h]

theorem Stage.walk_append (h : s.walk ts = some s') : s.walk (ts ++ us) = s'.walk us := by
  unfold walk at h ⊢
  rw [List.foldlM_append, h]
  rfl

/-- An operator leads from one operand to the next. -/
theorem Stage.walk_operator (h : ∀ d, walk ⟨d, true⟩ ts = some ⟨d, false⟩)
    (ht : t.kind = .and ∨ t.kind = .or) (d : Nat) :
    walk ⟨d, true⟩ (ts ++ t :: us) = walk ⟨d, true⟩ us := by
  rw [walk_append (h d)]
  apply walk_cons ⟨d, true⟩
  rcases ht with ht | ht <;> rw [ht] <;> rfl

/-- **One walks along what derives**, from where an operand is due to where it has ended;
by induction on the derivation. -/
theorem Derives.walks (h : Derives level ts e) (d : Nat) :
    Stage.walk ⟨d, true⟩ ts = some ⟨d, false⟩ := by
  induction h generalizing d with
  | or _ ht _ hl hr => rw [Stage.walk_operator hl (.inr ht), hr]
  | and _ ht _ hl hr => rw [Stage.walk_operator hl (.inl ht), hr]
  | orOfAnd _ hinner | andOfNot _ hinner | notOfAtom _ hinner => exact hinner d
  | not ht _ hoperand =>
    rw [Stage.walk_cons ⟨d, true⟩ (by rw [ht]; rfl)]
    exact hoperand d
  | group ht _ hu hinner =>
    rw [List.cons_append, Stage.walk_cons ⟨d + 1, true⟩ (by rw [ht]; rfl),
      Stage.walk_append (hinner (d + 1)), Stage.walk_cons ⟨d, false⟩ (by rw [hu]; rfl)]
    rfl
  | tag ht => exact Stage.walk_cons _ (by rw [ht]; rfl)

/-- Nothing that derives starts with tokens that one cannot walk along. -/
theorem Derives.not_prefix (h : Derives level ts e) (hwalk : Stage.walk ⟨0, true⟩ us = none) :
    ¬ us <+: ts := by
  rintro ⟨vs, rfl⟩
  have hwalks := h.walks 0
  unfold Stage.walk at hwalk hwalks
  rw [List.foldlM_append, hwalk] at hwalks
  cases hwalks

end

/-! ## §2. Where an error stands. -/

/-- Some tokens can be completed to an expression of a level. -/
def Viable (level : Level) (ts : List Token) : Prop :=
  ∃ ws : List (List Char), (∀ w ∈ ws, IsLexeme w) ∧
    ∀ n, ∃ e, Derives level (ts ++ number n ws) e

/-- One can walk along what was read, however many parentheses are open, but not go on with
the first token that is left. -/
def Stuck (read left : List Token) : Prop :=
  ∀ d, ∃ s, Stage.walk ⟨d, true⟩ read = some s ∧ ∀ t ∈ left.head?, s.step t.kind = none

/-- A fault is about the first token that is left, which cannot stand there, behind tokens
that can be completed. -/
def Breaks (level : Level) (ts : List Token) (f : Fault) : Prop :=
  ∃ read left, ts = read ++ left ∧ left.head? = f.token? ∧ Viable level read ∧ Stuck read left

/-- An expression of a level with some tokens in front of it and lexemes behind it is one of
another level, and an operand is due behind the tokens in front. -/
structure Surrounds (outer inner : Level) (front : List Token) (back : List (List Char)) :
    Prop where
  lexemes : ∀ w ∈ back, IsLexeme w
  derives : ∀ ts e n, Derives inner ts e → ∃ e', Derives outer (front ++ ts ++ number n back) e'
  due : ∀ d, ∃ d', Stage.walk ⟨d, true⟩ front = some ⟨d', true⟩

section

variable {outer inner level : Level} {front used ts us : List Token} {t u : Token} {e : Expr}
  {f : Fault} {back : List (List Char)}

theorem isLexeme_close : ∀ w ∈ [[')']], IsLexeme w :=
  fun _ hw => List.mem_singleton.1 hw ▸ .paren rfl

/-- An error inside an expression is one of what surrounds it. -/
theorem Breaks.surround (h : Breaks inner us f) (hs : Surrounds outer inner front back)
    (hts : ts = front ++ us) : Breaks outer ts f := by
  obtain ⟨read, left, rfl, hf, ⟨ws, hws, hviable⟩, hstuck⟩ := h
  refine ⟨front ++ read, left, by rw [hts, List.append_assoc], hf, ⟨ws ++ back, ?_, fun n => ?_⟩,
    fun d => ?_⟩
  · intro w hw
    exact (List.mem_append.1 hw).elim (hws w) (hs.lexemes w)
  · obtain ⟨e, he⟩ := hviable n
    obtain ⟨e', he'⟩ := hs.derives _ e (n + ws.length) he
    exact ⟨e', by simpa [number_append] using he'⟩
  · obtain ⟨d', hd'⟩ := hs.due d
    rw [Stage.walk_append hd']
    exact hstuck d'

/-- What derives from a level as it stands is surrounded by nothing. -/
theorem Surrounds.within (h : ∀ ts e, Derives inner ts e → Derives outer ts e) :
    Surrounds outer inner [] [] where
  lexemes := nofun
  derives ts e n he := ⟨e, by simpa [number] using h ts e he⟩
  due d := ⟨d, rfl⟩

/-- The operand on the right of an operator stands behind the one on its left. -/
theorem Surrounds.orRight (hd : Derives .or used e) (ht : t.kind = .or) :
    Surrounds .or .and (used ++ [t]) [] where
  lexemes := nofun
  derives ts r n hr := ⟨_, by simpa [number] using Derives.or hd ht hr⟩
  due d := ⟨d, Stage.walk_operator hd.walks (.inr ht) d⟩

theorem Surrounds.andRight (hd : Derives .and used e) (ht : t.kind = .and) :
    Surrounds .and .not (used ++ [t]) [] where
  lexemes := nofun
  derives ts r n hr := ⟨_, by simpa [number] using Derives.and hd ht hr⟩
  due d := ⟨d, Stage.walk_operator hd.walks (.inl ht) d⟩

theorem Surrounds.negation (ht : t.kind = .not) : Surrounds .not .not [t] [] where
  lexemes := nofun
  derives ts e n he := ⟨_, by simpa [number] using Derives.not ht he⟩
  due d := ⟨d, Stage.walk_cons _ (by rw [ht]; rfl)⟩

theorem Surrounds.group (ht : t.kind = .lparen) : Surrounds .atom .or [t] [[')']] where
  lexemes := isLexeme_close
  derives ts e n he := ⟨e, .group ht he rfl⟩
  due d := ⟨d + 1, Stage.walk_cons _ (by rw [ht]; rfl)⟩

/-- Where an operand is due, none of the other tokens can stand. -/
theorem Breaks.operand (hf : ts.head? = f.token?) (hopen : Unlike .lparen ts)
    (htag : Unlike .tag ts) (hnot : Unlike .not ts) : Breaks .atom ts f := by
  refine ⟨[], ts, rfl, hf, ⟨[['a']], ?_, fun n => ⟨_, .tag (t := ⟨.tag, "a", n⟩) rfl⟩⟩,
    fun d => ⟨⟨d, true⟩, rfl, fun t ht => ?_⟩⟩
  · have hword : IsLexeme ['a'] := .word nofun (List.forall_mem_singleton.2 (by decide))
    exact fun w hw => List.mem_singleton.1 hw ▸ hword
  · have hopen := hopen t ht
    have htag := htag t ht
    have hnot := hnot t ht
    cases hk : t.kind <;> first | rfl | contradiction

/-- Where a group must be closed, no operand can start. -/
theorem Breaks.closing (ht : t.kind = .lparen) (hd : Derives .or used e)
    (hf : us.head? = f.token?) (hclose : Unlike .rparen us) (hand : Unlike .and us)
    (hor : Unlike .or us) : Breaks .atom (t :: (used ++ us)) f := by
  refine ⟨t :: used, us, rfl, hf, ⟨[[')']], isLexeme_close, fun n => ⟨e, .group ht hd rfl⟩⟩,
    fun d => ⟨⟨d + 1, false⟩, ?_, fun u hu => ?_⟩⟩
  · rw [Stage.walk_cons ⟨d + 1, true⟩ (by rw [ht]; rfl), hd.walks]
  · have hclose := hclose u hu
    have hand := hand u hu
    have hor := hor u hu
    cases hk : u.kind <;> first | rfl | contradiction

end

/-! ## §3. Every error of the parser. -/

/-- What a function of the parser leaves does not go on with the operators that it takes. -/
def Ends : Level → List Token → Prop
  | .or, ts => Unlike .and ts ∧ Unlike .or ts
  | .and, ts => Unlike .and ts
  | .not, _ | .atom, _ => True

/-- What a function of the parser leaves, and where its errors stand. -/
def Explains (level : Level) (ts : List Token) (x : Except Fault (Parsed ts)) : Prop :=
  (∀ p, x = .ok p → Ends level p.rest) ∧ ∀ f, x = .error f → Breaks level ts f

section

variable {level outer inner : Level} {ts us front : List Token} {f : Fault}
  {back : List (List Char)}

theorem Explains.ok {p : Parsed ts} (h : Ends level p.rest) : Explains level ts (.ok p) := by
  refine ⟨fun p' hp' => ?_, nofun⟩
  cases hp'
  exact h

theorem Explains.error (h : Breaks level ts f) : Explains level ts (.error f) := by
  refine ⟨nofun, fun f' hf' => ?_⟩
  cases hf'
  exact h

/-- An error that is handed on is one of what surrounds it. -/
theorem Explains.fails {x : Except Fault (Parsed us)} (h : Explains inner us x)
    (hx : x = .error f) (hs : Surrounds outer inner front back) (hts : ts = front ++ us) :
    Explains outer ts (.error f) :=
  .error ((h.2 f hx).surround hs hts)

end

/-- **Every error of the parser stands where no filter goes on**, by induction along its
calls.  A loop is entered with what was read before it, and behind an operand that no AND
follows. -/
theorem explains_calls : (∀ ts, Explains .or ts (parseOr ts)) ∧
    (∀ ts (p : Parsed ts), ∀ used, ts = used ++ p.rest → Derives .or used p.expr →
      Unlike .and p.rest → Explains .or ts (orTail ts p)) ∧
    (∀ ts, Explains .and ts (parseAnd ts)) ∧
    (∀ ts (p : Parsed ts), ∀ used, ts = used ++ p.rest → Derives .and used p.expr →
      Explains .and ts (andTail ts p)) ∧
    (∀ ts, Explains .not ts (parseNot ts)) ∧
    ∀ ts, Unlike .not ts → Explains .atom ts (parseAtom ts) := by
  refine parseOr.mutual_induct
    (fun ts => Explains .or ts (parseOr ts))
    (fun ts p => ∀ used, ts = used ++ p.rest → Derives .or used p.expr →
      Unlike .and p.rest → Explains .or ts (orTail ts p))
    (fun ts => Explains .and ts (parseAnd ts))
    (fun ts p => ∀ used, ts = used ++ p.rest → Derives .and used p.expr →
      Explains .and ts (andTail ts p))
    (fun ts => Explains .not ts (parseNot ts))
    (fun ts => Unlike .not ts → Explains .atom ts (parseAtom ts))
    ?orFails ?orStarts ?orEnds ?orOperandFails ?orGoesOn ?orStops
    ?andFails ?andStarts ?andEnds ?andOperandFails ?andGoesOn ?andStops
    ?notMissing ?notFails ?notReads ?notAtom
    ?atomMissing ?groupFails ?groupUnclosed ?groupReads ?groupBroken ?tagReads ?atomFails
  case orFails =>
    intro ts f h hand
    rw [parseOr_of_error h]
    exact hand.fails h (.within fun _ _ => .orOfAnd) rfl
  case orStarts =>
    intro ts p h hand htail
    obtain ⟨used, hused, hd⟩ := Derives.of_parseAnd ts p h
    rw [parseOr_of_ok h]
    exact htail used hused (.orOfAnd hd) (hand.1 p h)
  case orEnds =>
    intro ts p h used _ _ hand
    have hstop : Unlike .or p.rest := h ▸ unlike_nil _
    rw [orTail_of_unlike hstop]
    exact .ok ⟨hand, hstop⟩
  case orStops =>
    intro ts p t rest h ht used _ _ hand
    have hstop : Unlike .or p.rest := h ▸ unlike_cons.2 ht
    rw [orTail_of_unlike hstop]
    exact .ok ⟨hand, hstop⟩
  case orOperandFails =>
    intro ts p t rest hrest ht f h hright used hused hd _
    rw [orTail_of_or hrest ht, h]
    exact hright.fails h (.orRight hd ht) (by simpa [hrest] using hused)
  case orGoesOn =>
    intro ts p t rest hrest ht q h hright htail used hused hd _
    obtain ⟨more, hmore, hd'⟩ := Derives.of_parseAnd rest q h
    rw [orTail_of_or hrest ht, h]
    rw [hrest, hmore] at hused
    exact htail (used ++ t :: more) (by simpa using hused) (.or hd ht hd') (hright.1 q h)
  case andFails =>
    intro ts f h hnot
    rw [parseAnd_of_error h]
    exact hnot.fails h (.within fun _ _ => .andOfNot) rfl
  case andStarts =>
    intro ts p h hnot htail
    obtain ⟨used, hused, hd⟩ := Derives.of_parseNot ts p h
    rw [parseAnd_of_ok h]
    exact htail used hused (.andOfNot hd)
  case andEnds =>
    intro ts p h used _ _
    have hstop : Unlike .and p.rest := h ▸ unlike_nil _
    rw [andTail_of_unlike hstop]
    exact .ok hstop
  case andStops =>
    intro ts p t rest h ht used _ _
    have hstop : Unlike .and p.rest := h ▸ unlike_cons.2 ht
    rw [andTail_of_unlike hstop]
    exact .ok hstop
  case andOperandFails =>
    intro ts p t rest hrest ht f h hright used hused hd
    rw [andTail_of_and hrest ht, h]
    exact hright.fails h (.andRight hd ht) (by simpa [hrest] using hused)
  case andGoesOn =>
    intro ts p t rest hrest ht q h _ htail used hused hd
    obtain ⟨more, hmore, hd'⟩ := Derives.of_parseNot rest q h
    rw [andTail_of_and hrest ht, h]
    rw [hrest, hmore] at hused
    exact htail (used ++ t :: more) (by simpa using hused) (.and hd ht hd')
  case notMissing =>
    rw [parseNot]
    have hmissing : Breaks .atom [] .operandMissing :=
      .operand rfl (unlike_nil _) (unlike_nil _) (unlike_nil _)
    exact .error (hmissing.surround (.within fun _ _ => .notOfAtom) rfl)
  case notFails =>
    intro t rest ht f h hoperand
    rw [parseNot_of_not _ ht, h]
    exact hoperand.fails h (.negation ht) rfl
  case notReads =>
    intro t rest ht q h _
    rw [parseNot_of_not _ ht, h]
    exact .ok trivial
  case notAtom =>
    intro t rest ht hatom
    rw [parseNot_of_ne ht]
    refine ⟨fun _ _ => trivial, fun f hf => ?_⟩
    exact ((hatom (unlike_cons.2 ht)).2 f hf).surround (.within fun _ _ => .notOfAtom) rfl
  case atomMissing =>
    rw [parseAtom]
    exact fun _ => .error (.operand rfl (unlike_nil _) (unlike_nil _) (unlike_nil _))
  case groupFails =>
    intro t rest ht f h hinner _
    rw [parseAtom_of_error ht h]
    exact hinner.fails h (.group ht) rfl
  case groupUnclosed =>
    intro t rest ht q h hnil _ _
    obtain ⟨used, hused, hd⟩ := Derives.of_parseOr rest q h
    rw [parseAtom_of_unclosed ht h hnil]
    rw [hnil] at hused
    have hbreaks : Breaks .atom (t :: (used ++ [])) (.unclosed t.position) :=
      .closing ht hd rfl (unlike_nil _) (unlike_nil _) (unlike_nil _)
    exact .error (hused ▸ hbreaks)
  case groupReads =>
    intro t rest ht q h u after hrest hu _ _
    obtain ⟨hshorter, heq⟩ := parseAtom_of_group ht h hrest
    rw [heq, if_pos hu]
    exact .ok trivial
  case groupBroken =>
    intro t rest ht q h u after hrest hu hinner _
    obtain ⟨used, hused, hd⟩ := Derives.of_parseOr rest q h
    obtain ⟨hshorter, heq⟩ := parseAtom_of_group ht h hrest
    obtain ⟨hand, hor⟩ := hinner.1 q h
    rw [hrest] at hand hor hused
    rw [heq, if_neg hu]
    exact .error (hused ▸ .closing ht hd rfl (unlike_cons.2 hu) hand hor)
  case tagReads =>
    intro t rest hparen ht _
    rw [parseAtom_of_ne _ hparen, if_pos ht]
    exact .ok trivial
  case atomFails =>
    intro t rest hparen ht hnot
    rw [parseAtom_of_ne _ hparen, if_neg ht]
    exact .error (.operand rfl (unlike_cons.2 hparen) (unlike_cons.2 ht) hnot)

/-! ## §4. Errors of whole filters. -/

/-- The tokens of a filter that is read. -/
def Accepted (ts : List Token) : Prop := ∃ filter e, tokenize filter = ts ∧ parse filter = .ok e

section

variable {ts read left : List Token} {f : Fault} {filter : String} {err : SyntaxError}

theorem Accepted.derives (h : Accepted ts) : ∃ e, Derives .or ts e := by
  obtain ⟨filter, e, rfl, hparse⟩ := h
  exact ⟨e, parse_eq_ok_iff.1 hparse⟩

/-- The tokens of a filter that is refused are those of no other filter that is read. -/
theorem not_accepted (h : parse filter = .error err) : ¬ Accepted (tokenize filter) := by
  intro hsome
  obtain ⟨e, hd⟩ := hsome.derives
  rw [parse_eq_ok_iff.2 hd] at h
  cases h

/-- A start of the tokens of a filter that can be completed is completed by another filter,
whose text spells out the tokens. -/
theorem Viable.accepted (h : Viable .or read) (hread : read <+: tokenize filter) :
    ∃ ts, Accepted ts ∧ read <+: ts := by
  obtain ⟨ws, hws, hviable⟩ := h
  let front := (lexemes filter.toList).take read.length
  have hfront : number 0 front = read := by
    rw [number_take]
    exact (List.prefix_iff_eq_take.1 hread).symm
  have hlex : ∀ w ∈ front ++ ws, IsLexeme w := by
    intro w hw
    exact (List.mem_append.1 hw).elim (fun h => .of_mem (List.mem_of_mem_take h)) (hws w)
  obtain ⟨e, hd⟩ := hviable (0 + front.length)
  have htokens : tokenize (String.ofList (spelled (front ++ ws)))
      = read ++ number (0 + front.length) ws := by
    rw [tokenize_spelled hlex, number_append, hfront]
  exact ⟨_, ⟨_, e, htokens, parse_eq_ok_iff.2 (htokens ▸ hd)⟩, List.prefix_append _ _⟩

/-- What a whole filter is refused for: also a token behind it, where no parenthesis is
open. -/
theorem parseTokens_refused (h : parseTokens ts = .error f) :
    ∃ read left, ts = read ++ left ∧ left.head? = f.token? ∧ Viable .or read ∧
      ∀ t ∈ left.head?, Stage.walk ⟨0, true⟩ (read ++ [t]) = none := by
  unfold parseTokens at h
  split at h
  next f' hf =>
    cases h
    obtain ⟨read, left, hts, hf, hviable, hstuck⟩ := (explains_calls.1 ts).2 f hf
    obtain ⟨s, hs, hnone⟩ := hstuck 0
    refine ⟨read, left, hts, hf, hviable, fun t ht => ?_⟩
    rw [Stage.walk_append hs, Stage.walk_cons_none (hnone t ht)]
  next p hp =>
    split at h
    · cases h
    next t after hrest =>
      cases h
      obtain ⟨used, hused, hd⟩ := Derives.of_parseOr ts p hp
      obtain ⟨hand, hor⟩ := (explains_calls.1 ts).1 p hp
      rw [hrest] at hused hand hor
      refine ⟨used, t :: after, hused, rfl, ⟨[], List.forall_mem_nil _, fun n => ?_⟩,
        fun u hu => ?_⟩
      · exact ⟨p.expr, by simpa [number] using hd⟩
      · cases hu
        -- No parenthesis is open that the token could close.
        rw [Stage.walk_append (hd.walks 0)]
        apply Stage.walk_cons_none
        have hand := unlike_cons.1 hand
        have hor := unlike_cons.1 hor
        cases hk : t.kind <;> simp_all [Stage.step]

/-- **A syntax error stands at the first impossible token.**  If it tells an index, then it
tells the text of the token there, the tokens in front of that one are the start of a filter
that is read, and no filter that is read starts with them and that token.  If it tells none,
then it tells no token either, and the filter is the start of a longer one that is read, but
is none itself. -/
theorem parse_refused (filter : String) (err : SyntaxError) (h : parse filter = .error err) :
    (∀ p, err.position? = some p →
      (∃ t, (tokenize filter)[p]? = some t ∧ err.tokenText? = some t.text) ∧
      (∃ ts, Accepted ts ∧ (tokenize filter).take p <+: ts) ∧
      ∀ ts, Accepted ts → ¬ (tokenize filter).take (p + 1) <+: ts) ∧
    (err.position? = none →
      err.tokenText? = none ∧ ¬ Accepted (tokenize filter) ∧
      ∃ ts, Accepted ts ∧ tokenize filter <+: ts ∧ tokenize filter ≠ ts) := by
  have hrefused := h
  unfold parse at h
  split at h
  · cases h
  next f hf =>
    cases h
    obtain ⟨read, left, hts, hhead, hviable, hstuck⟩ := parseTokens_refused hf
    have hread : ∃ ts, Accepted ts ∧ read <+: ts := hviable.accepted ⟨left, hts.symm⟩
    constructor
    · intro p hp
      obtain ⟨t, ht, hpos⟩ := Option.map_eq_some_iff.1 hp
      have ht' : left.head? = some t := hhead.trans ht
      obtain ⟨after, rfl⟩ := List.head?_eq_some_iff.1 ht'
      have hp : p = read.length := by
        rw [← hpos, position_of_number hts, Nat.zero_add]
      subst hp
      refine ⟨⟨t, by rw [hts]; simp, by rw [SyntaxError.tokenText?, ht]; rfl⟩, ?_, ?_⟩
      · rw [hts, List.take_left]
        exact hread
      · intro ts haccepted
        obtain ⟨e, hd⟩ := haccepted.derives
        have htake : (tokenize filter).take (read.length + 1) = read ++ [t] := by
          rw [hts, List.take_length_add_append]
          rfl
        rw [htake]
        exact hd.not_prefix (hstuck t ht')
    · intro hp
      have hnone : f.token? = none := Option.map_eq_none_iff.1 hp
      have hleft : left = [] := List.head?_eq_none_iff.1 (hhead.trans hnone)
      rw [hleft, List.append_nil] at hts
      obtain ⟨ts, haccepted, hprefix⟩ := hread
      rw [← hts] at hprefix
      have hnot := not_accepted hrefused
      exact ⟨by rw [SyntaxError.tokenText?, hnone]; rfl, hnot, ts, haccepted, hprefix,
        fun heq => hnot (heq ▸ haccepted)⟩

/-- A filter with a token that cannot stand where it stands, and one that ends too early. -/
theorem parse_refused_sample :
    (∃ err, parse "a OR )" = .error err ∧ err.tokenText? = some ")" ∧
      (∃ ts, Accepted ts ∧ (tokenize "a OR )").take 2 <+: ts) ∧
      ∀ ts, Accepted ts → ¬ (tokenize "a OR )").take 3 <+: ts) ∧
    ∃ err, parse "(a" = .error err ∧ ∃ ts, Accepted ts ∧ tokenize "(a" <+: ts := by
  let a (n : Nat) : Token := ⟨.tag, "a", n⟩
  have hclosed : parse "a OR )" = .error ⟨"a OR )", .operandExpected ⟨.rparen, ")", 2⟩⟩ := by
    have htokens : tokenize "a OR )" = [a 0, ⟨.or, "OR", 1⟩, ⟨.rparen, ")", 2⟩] := by
      decide +kernel
    have hleft := (parseAnd_of_ok ((parseNot_of_ne (t := a 0) (by decide)).trans
      (parseAtom_of_ne [⟨.or, "OR", 1⟩, ⟨.rparen, ")", 2⟩] (by decide)))).trans
        (andTail_of_unlike (unlike_cons.2 (by decide)))
    have hright : parseAnd [⟨.rparen, ")", 2⟩] = .error (.operandExpected ⟨.rparen, ")", 2⟩) :=
      parseAnd_of_error ((parseNot_of_ne (by decide)).trans (parseAtom_of_ne _ (by decide)))
    have hor := parseOr_of_ok hleft
    rw [orTail_of_or rfl rfl, hright] at hor
    rw [parse, htokens, parseTokens, hor]
  have hopen : parse "(a" = .error ⟨"(a", .unclosed 0⟩ := by
    have htokens : tokenize "(a" = [⟨.lparen, "(", 0⟩, a 1] := by decide +kernel
    have hand := (parseAnd_of_ok ((parseNot_of_ne (t := a 1) (by decide)).trans
      (parseAtom_of_ne [] (by decide)))).trans (andTail_of_unlike (unlike_nil _))
    have hor := (parseOr_of_ok hand).trans (orTail_of_unlike (unlike_nil _))
    have hatom := parseAtom_of_unclosed (t := ⟨.lparen, "(", 0⟩) rfl hor rfl
    have hgroup := parseOr_of_error (parseAnd_of_error ((parseNot_of_ne (by decide)).trans hatom))
    rw [parse, htokens, parseTokens, hgroup]
  obtain ⟨-, hviable, himpossible⟩ := (parse_refused _ _ hclosed).1 2 rfl
  obtain ⟨-, -, ts, haccepted, hprefix, -⟩ := (parse_refused _ _ hopen).2 rfl
  exact ⟨⟨_, hclosed, rfl, hviable, himpossible⟩, _, hopen, ts, haccepted, hprefix⟩

end

end Mailroom.Filter
