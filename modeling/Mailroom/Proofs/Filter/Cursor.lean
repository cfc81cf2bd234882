import Mailroom.Proofs.Filter.Grammar
/-!
  Mailroom.Proofs.Filter.Cursor
  ────────────────────────────────
  **READING A FILTER WITH A CURSOR.**

  The parser takes the tokens that are left and hands back those behind the tree.  A filter
  can also be read with a cursor, an index into all of its tokens, by functions of which it
  is to be shown that they end, that they move the cursor on, and that they take no token
  behind the last one.  They run under a clock, which bounds how deep their calls are nested,
  rounds of a loop included; running out of it is an outcome of its own, and so is taking a
  token that is not there.

      follows_calls — the cursor reads what the parser reads, and which clock is enough
      read_local    — it moves on inside the tokens, and what it passes makes the tree
-/
namespace Mailroom.Filter

/-! ## §1. The cursor. -/

/-- What ends a reading before there is a tree. -/
inductive Halt where
  /-- The tokens are no filter. -/
  | fault (f : Fault)
  /-- A token is taken behind the last one. -/
  | pastEnd
  /-- Calls are nested deeper than the clock allows. -/
  | clock
  deriving Repr, DecidableEq

/-- A computation that moves a cursor. -/
abbrev Cursor (α : Type) := StateT Nat (Except Halt) α

namespace Cursor

/-- The outcome of a computation from an index on, with the index where it leaves the cursor. -/
def runFrom {α : Type} (x : Cursor α) (i : Nat) : Except Halt (α × Nat) := x i

/-- The token at the cursor, if there is one. -/
def peek (tokens : List Token) : Cursor (Option Token) := do
  return tokens[← get]?

/-- Takes the token at the cursor, which must be there. -/
def advance (tokens : List Token) : Cursor Token := do
  match ← peek tokens with
  | none => throw .pastEnd
  | some t =>
    modify (· + 1)
    return t

/-- Takes the token at the cursor if it is there and of a kind; tells whether it was. -/
def accept (tokens : List Token) (k : Kind) : Cursor Bool := do
  match ← peek tokens with
  | none => return false
  | some t =>
    if t.kind = k then
      modify (· + 1)
      return true
    else return false

/-- Takes the closing parenthesis of a group, after the tree inside. -/
def close (tokens : List Token) (opened : Token) (e : Expr) : Cursor Expr := do
  if ← accept tokens .rparen then return e
  else
    match ← peek tokens with
    | none => throw (.fault (.unclosed opened.position))
    | some t => throw (.fault (.closingExpected t))

mutual

/-- Reads an `or_expr`. -/
def readOr (tokens : List Token) : Nat → Cursor Expr
  | 0 => throw .clock
  | clock + 1 => do orLoop tokens (← readAnd tokens clock) clock

/-- Reads `(OR and_expr)*` after a tree. -/
def orLoop (tokens : List Token) (e : Expr) : Nat → Cursor Expr
  | 0 => throw .clock
  | clock + 1 => do
    if ← accept tokens .or then orLoop tokens (.or e (← readAnd tokens clock)) clock
    else return e

/-- Reads an `and_expr`. -/
def readAnd (tokens : List Token) : Nat → Cursor Expr
  | 0 => throw .clock
  | clock + 1 => do andLoop tokens (← readNot tokens clock) clock

/-- Reads `(AND not_expr)*` after a tree. -/
def andLoop (tokens : List Token) (e : Expr) : Nat → Cursor Expr
  | 0 => throw .clock
  | clock + 1 => do
    if ← accept tokens .and then andLoop tokens (.and e (← readNot tokens clock)) clock
    else return e

/-- Reads a `not_expr`. -/
def readNot (tokens : List Token) : Nat → Cursor Expr
  | 0 => throw .clock
  | clock + 1 => do
    if ← accept tokens .not then return .not (← readNot tokens clock)
    else readAtom tokens clock

/-- Reads an `atom`. -/
def readAtom (tokens : List Token) : Nat → Cursor Expr
  | 0 => throw .clock
  | clock + 1 => do
    match ← peek tokens with
    | none => throw (.fault .operandMissing)
    | some t =>
      if t.kind = .lparen then
        let _ ← advance tokens
        close tokens t (← readOr tokens clock)
      else if t.kind = .tag then
        let _ ← advance tokens
        return .tag t.text
      else throw (.fault (.operandExpected t))

end

end Cursor

/-! ## §2. Where the cursor stands. -/

/-- The index at which the last tokens of a list start. -/
def place (tokens ts : List Token) : Nat := tokens.length - ts.length

section

variable {tokens ts us : List Token} {t : Token}

theorem place_append (before ts : List Token) : place (before ++ ts) ts = before.length := by
  simp [place]

theorem place_drop {i : Nat} (h : i ≤ tokens.length) : place tokens (tokens.drop i) = i := by
  simp only [place, List.length_drop]
  omega

theorem place_succ (h : t :: ts <:+ tokens) : place tokens (t :: ts) + 1 = place tokens ts := by
  have hlength := h.length_le
  simp only [place, List.length_cons] at hlength ⊢
  omega

theorem getElem?_place (h : ts <:+ tokens) : tokens[place tokens ts]? = ts.head? := by
  obtain ⟨before, rfl⟩ := h
  rw [place_append, List.getElem?_append_right (Nat.le_refl _), Nat.sub_self,
    List.head?_eq_getElem?]

end

/-! ## §3. The cursor follows the parser. -/

/-- What the parser says of the tokens that are left, for a cursor. -/
def seen (tokens : List Token) {ts : List Token} :
    Except Fault (Parsed ts) → Except Halt (Expr × Nat)
  | .error f => .error (.fault f)
  | .ok p => .ok (p.expr, place tokens p.rest)

/-- From where some last tokens start, a computation comes to an outcome of the parser. -/
def Follows (tokens : List Token) (x : Cursor Expr) (ts : List Token) {us : List Token}
    (r : Except Fault (Parsed us)) : Prop :=
  ts <:+ tokens → x.runFrom (place tokens ts) = seen tokens r

section

variable {α β : Type} {tokens ts us vs : List Token} {t : Token} {k : Kind}
  {x : Cursor α} {f : α → Cursor β}

theorem Cursor.runFrom_bind_ok {a : α} {i j : Nat} (h : x.runFrom i = .ok (a, j)) :
    runFrom (x >>= f) i = (f a).runFrom j := by
  unfold runFrom at *
  simp [bind, StateT.bind, Except.bind, h]

theorem Cursor.runFrom_bind_error {i : Nat} {s : Halt} (h : x.runFrom i = .error s) :
    runFrom (x >>= f) i = .error s := by
  unfold runFrom at *
  simp [bind, StateT.bind, Except.bind, h]

theorem Cursor.runFrom_peek (h : ts <:+ tokens) :
    (peek tokens).runFrom (place tokens ts) = .ok (ts.head?, place tokens ts) := by
  rw [← getElem?_place h]
  rfl

theorem Cursor.runFrom_advance (h : t :: ts <:+ tokens) :
    (advance tokens).runFrom (place tokens (t :: ts)) = .ok (t, place tokens ts) := by
  rw [advance, runFrom_bind_ok (runFrom_peek h), ← place_succ h]
  rfl

theorem Cursor.runFrom_accept (h : t :: ts <:+ tokens) (ht : t.kind = k) :
    (accept tokens k).runFrom (place tokens (t :: ts)) = .ok (true, place tokens ts) := by
  rw [accept, runFrom_bind_ok (runFrom_peek h), ← place_succ h]
  dsimp only [List.head?_cons]
  rw [if_pos ht]
  rfl

theorem Cursor.runFrom_accept_unlike (h : ts <:+ tokens) (hk : Unlike k ts) :
    (accept tokens k).runFrom (place tokens ts) = .ok (false, place tokens ts) := by
  rw [accept, runFrom_bind_ok (runFrom_peek h)]
  cases ts with
  | nil => rfl
  | cons t ts =>
    dsimp only [List.head?_cons]
    rw [if_neg (unlike_cons.1 hk)]
    rfl

end

section

open Cursor

variable {tokens ts us vs : List Token} {t : Token} {k : Kind} {e : Expr} {f : Fault}
  {x y : Cursor Expr} {g : Expr → Cursor Expr} {r : Except Fault (Parsed vs)}

theorem Follows.done {hshorter : ts.length < us.length} :
    Follows tokens (pure e) ts (.ok (⟨e, ts, hshorter⟩ : Parsed us)) := fun _ => rfl

theorem Follows.halts :
    Follows tokens (throw (.fault f)) ts (.error f : Except Fault (Parsed us)) := fun _ => rfl

/-- A computation that fails is not gone on with. -/
theorem Follows.bindError (h : Follows tokens x ts (.error f : Except Fault (Parsed us))) :
    Follows tokens (x >>= g) ts (.error f : Except Fault (Parsed vs)) :=
  fun hsuffix => runFrom_bind_error (h hsuffix)

/-- A computation is gone on with from where it leaves the cursor. -/
theorem Follows.bindOk {p : Parsed us} (h : Follows tokens x ts (.ok p)) (hp : p.rest <:+ ts)
    (hg : Follows tokens (g p.expr) p.rest r) : Follows tokens (x >>= g) ts r :=
  fun hsuffix => (runFrom_bind_ok (h hsuffix)).trans (hg (hp.trans hsuffix))

theorem Follows.looks {g : Option Token → Cursor Expr} (h : Follows tokens (g ts.head?) ts r) :
    Follows tokens (peek tokens >>= g) ts r :=
  fun hsuffix => (runFrom_bind_ok (runFrom_peek hsuffix)).trans (h hsuffix)

theorem Follows.takes {g : Token → Cursor Expr} (h : Follows tokens (g t) ts r) :
    Follows tokens (advance tokens >>= g) (t :: ts) r :=
  fun hsuffix => (runFrom_bind_ok (runFrom_advance hsuffix)).trans
    (h ((List.suffix_cons t ts).trans hsuffix))

theorem Follows.accepts (ht : t.kind = k) (h : Follows tokens x ts r) :
    Follows tokens (do if ← accept tokens k then x else y) (t :: ts) r :=
  fun hsuffix => (runFrom_bind_ok (runFrom_accept hsuffix ht)).trans
    (h ((List.suffix_cons t ts).trans hsuffix))

theorem Follows.declines (hk : Unlike k ts) (h : Follows tokens y ts r) :
    Follows tokens (do if ← accept tokens k then x else y) ts r :=
  fun hsuffix => (runFrom_bind_ok (runFrom_accept_unlike hsuffix hk)).trans (h hsuffix)

/-- A group is read as what stands in it, up to what has to close it. -/
theorem Follows.group (ht : t.kind = .lparen) {clock : Nat}
    (h : Follows tokens (readOr tokens clock >>= close tokens t) ts r) :
    Follows tokens (readAtom tokens (clock + 1)) (t :: ts) r := by
  rw [readAtom]
  refine .looks ?_
  dsimp only [List.head?_cons]
  rw [if_pos ht]
  exact .takes h

end

/-- What is left is the end of what there was. -/
theorem Reads.suffix {level : Level} {ts : List Token} {r : Except Fault (Parsed ts)}
    (h : Reads level ts r) {p : Parsed ts} (hp : r = .ok p) : p.rest <:+ ts := by
  obtain ⟨used, hused, -⟩ := h p hp
  exact ⟨used, hused.symm⟩

/-- Under every clock from some number on, a computation follows the parser. -/
def Settles (tokens : List Token) (need : Nat) (x : Nat → Cursor Expr) (ts : List Token)
    {us : List Token} (r : Except Fault (Parsed us)) : Prop :=
  ∀ clock, need ≤ clock → Follows tokens (x clock) ts r

theorem Settles.succ {tokens ts us : List Token} {need : Nat} {x : Nat → Cursor Expr}
    {r : Except Fault (Parsed us)}
    (h : ∀ clock, need ≤ clock → Follows tokens (x (clock + 1)) ts r) :
    Settles tokens (need + 1) x ts r := by
  intro clock hclock
  cases clock with
  | zero => omega
  | succ clock => exact h clock (Nat.le_of_succ_le_succ hclock)

section

open Cursor

variable {tokens ts : List Token} {p : Parsed ts}

/-- The end of a chain of OR is a tree under any clock. -/
theorem Settles.orStop (hstop : Unlike .or p.rest) (need : Nat) :
    Settles tokens (need + 1) (orLoop tokens p.expr) p.rest (orTail ts p) := by
  rw [orTail_of_unlike hstop]
  refine .succ fun clock _ => ?_
  rw [orLoop]
  exact .declines hstop .done

/-- The end of a chain of AND is a tree under any clock. -/
theorem Settles.andStop (hstop : Unlike .and p.rest) (need : Nat) :
    Settles tokens (need + 1) (andLoop tokens p.expr) p.rest (andTail ts p) := by
  rw [andTail_of_unlike hstop]
  refine .succ fun clock _ => ?_
  rw [andLoop]
  exact .declines hstop .done

/-- Where no token is left, an operand is missing under any clock. -/
theorem Settles.missing {us : List Token} (need : Nat) : Settles tokens (need + 1) (readAtom tokens)
    [] (.error .operandMissing : Except Fault (Parsed us)) := by
  refine .succ fun clock _ => ?_
  rw [readAtom]
  exact .looks .halts

/-- **The cursor reads what the parser reads**, by induction along the calls of the parser.
What a call needs of the clock grows with the tokens that are left and, for the same tokens,
from the tightest level to the loosest: four levels are passed from one parenthesis to the
next. -/
theorem follows_calls (tokens : List Token) :
    (∀ ts, Settles tokens (4 * ts.length + 4) (readOr tokens) ts (parseOr ts)) ∧
    (∀ ts (p : Parsed ts),
      Settles tokens (4 * p.rest.length + 1) (orLoop tokens p.expr) p.rest (orTail ts p)) ∧
    (∀ ts, Settles tokens (4 * ts.length + 3) (readAnd tokens) ts (parseAnd ts)) ∧
    (∀ ts (p : Parsed ts),
      Settles tokens (4 * p.rest.length + 1) (andLoop tokens p.expr) p.rest (andTail ts p)) ∧
    (∀ ts, Settles tokens (4 * ts.length + 2) (readNot tokens) ts (parseNot ts)) ∧
    ∀ ts, Settles tokens (4 * ts.length + 1) (readAtom tokens) ts (parseAtom ts) := by
  refine parseOr.mutual_induct
    (fun ts => Settles tokens (4 * ts.length + 4) (readOr tokens) ts (parseOr ts))
    (fun ts p =>
      Settles tokens (4 * p.rest.length + 1) (orLoop tokens p.expr) p.rest (orTail ts p))
    (fun ts => Settles tokens (4 * ts.length + 3) (readAnd tokens) ts (parseAnd ts))
    (fun ts p =>
      Settles tokens (4 * p.rest.length + 1) (andLoop tokens p.expr) p.rest (andTail ts p))
    (fun ts => Settles tokens (4 * ts.length + 2) (readNot tokens) ts (parseNot ts))
    (fun ts => Settles tokens (4 * ts.length + 1) (readAtom tokens) ts (parseAtom ts))
    ?orFails ?orStarts ?orEnds ?orOperandFails ?orGoesOn ?orStops
    ?andFails ?andStarts ?andEnds ?andOperandFails ?andGoesOn ?andStops
    ?notMissing ?notFails ?notReads ?notAtom
    ?atomMissing ?groupFails ?groupUnclosed ?groupReads ?groupBroken ?tagReads ?atomFails
  case orFails =>
    intro ts f h hand
    rw [parseOr_of_error h]
    rw [h] at hand
    refine .succ fun clock hclock => ?_
    rw [readOr]
    exact (hand clock hclock).bindError
  case orStarts =>
    intro ts p h hand htail
    rw [parseOr_of_ok h]
    rw [h] at hand
    refine .succ fun clock hclock => ?_
    -- The loop starts behind the first operand, so that it needs no more than that did.
    have hshorter := p.shorter
    rw [readOr]
    exact (hand clock hclock).bindOk ((Derives.of_parseAnd ts).suffix h)
      (htail clock (by omega))
  case orEnds =>
    intro ts p h
    have hstop : Unlike .or p.rest := h ▸ unlike_nil _
    exact .orStop hstop _
  case orStops =>
    intro ts p t rest h ht
    have hstop : Unlike .or p.rest := h ▸ unlike_cons.2 ht
    exact .orStop hstop _
  case orOperandFails =>
    intro ts p t rest hrest ht f h hand
    rw [orTail_of_or hrest ht, h, hrest]
    rw [h] at hand
    refine .succ fun clock hclock => ?_
    rw [List.length_cons] at hclock
    rw [orLoop]
    exact .accepts ht (hand clock (by omega)).bindError
  case orGoesOn =>
    intro ts p t rest hrest ht q h hand htail
    rw [orTail_of_or hrest ht, h, hrest]
    rw [h] at hand
    refine .succ fun clock hclock => ?_
    rw [List.length_cons] at hclock
    have hshorter := q.shorter
    rw [orLoop]
    exact .accepts ht ((hand clock (by omega)).bindOk ((Derives.of_parseAnd rest).suffix h)
      (htail clock (by dsimp only; omega)))
  case andFails =>
    intro ts f h hnot
    rw [parseAnd_of_error h]
    rw [h] at hnot
    refine .succ fun clock hclock => ?_
    rw [readAnd]
    exact (hnot clock hclock).bindError
  case andStarts =>
    intro ts p h hnot htail
    rw [parseAnd_of_ok h]
    rw [h] at hnot
    refine .succ fun clock hclock => ?_
    have hshorter := p.shorter
    rw [readAnd]
    exact (hnot clock hclock).bindOk ((Derives.of_parseNot ts).suffix h)
      (htail clock (by omega))
  case andEnds =>
    intro ts p h
    have hstop : Unlike .and p.rest := h ▸ unlike_nil _
    exact .andStop hstop _
  case andStops =>
    intro ts p t rest h ht
    have hstop : Unlike .and p.rest := h ▸ unlike_cons.2 ht
    exact .andStop hstop _
  case andOperandFails =>
    intro ts p t rest hrest ht f h hnot
    rw [andTail_of_and hrest ht, h, hrest]
    rw [h] at hnot
    refine .succ fun clock hclock => ?_
    rw [List.length_cons] at hclock
    rw [andLoop]
    exact .accepts ht (hnot clock (by omega)).bindError
  case andGoesOn =>
    intro ts p t rest hrest ht q h hnot htail
    rw [andTail_of_and hrest ht, h, hrest]
    rw [h] at hnot
    refine .succ fun clock hclock => ?_
    rw [List.length_cons] at hclock
    have hshorter := q.shorter
    rw [andLoop]
    exact .accepts ht ((hnot clock (by omega)).bindOk ((Derives.of_parseNot rest).suffix h)
      (htail clock (by dsimp only; omega)))
  case notMissing =>
    rw [parseNot]
    refine .succ fun clock hclock => ?_
    rw [readNot]
    exact .declines (unlike_nil _) (Settles.missing _ clock hclock)
  case notFails =>
    intro t rest ht f h hnot
    rw [parseNot_of_not _ ht, h]
    rw [h] at hnot
    refine .succ fun clock hclock => ?_
    rw [List.length_cons] at hclock
    rw [readNot]
    exact .accepts ht (hnot clock (by omega)).bindError
  case notReads =>
    intro t rest ht q h hnot
    rw [parseNot_of_not _ ht, h]
    rw [h] at hnot
    refine .succ fun clock hclock => ?_
    rw [List.length_cons] at hclock
    rw [readNot]
    exact .accepts ht ((hnot clock (by omega)).bindOk ((Derives.of_parseNot rest).suffix h) .done)
  case notAtom =>
    intro t rest ht hatom
    rw [parseNot_of_ne ht]
    refine .succ fun clock hclock => ?_
    rw [readNot]
    exact .declines (unlike_cons.2 ht) (hatom clock hclock)
  case atomMissing =>
    rw [parseAtom]
    exact .missing _
  case groupFails =>
    intro t rest ht f h hor
    rw [h] at hor
    rw [parseAtom_of_error ht h]
    exact .succ fun clock hclock => .group ht (hor clock hclock).bindError
  case groupUnclosed =>
    intro t rest ht q h hnil hor
    rw [h] at hor
    rw [parseAtom_of_unclosed ht h hnil]
    refine .succ fun clock hclock => .group ht
      ((hor clock hclock).bindOk ((Derives.of_parseOr rest).suffix h) ?_)
    rw [hnil, close]
    exact .declines (unlike_nil _) (.looks .halts)
  case groupReads =>
    intro t rest ht q h u after hrest hu hor
    obtain ⟨hshorter, heq⟩ := parseAtom_of_group ht h hrest
    rw [h] at hor
    rw [heq, if_pos hu]
    refine .succ fun clock hclock => .group ht
      ((hor clock hclock).bindOk ((Derives.of_parseOr rest).suffix h) ?_)
    rw [hrest, close]
    exact .accepts hu .done
  case groupBroken =>
    intro t rest ht q h u after hrest hu hor
    obtain ⟨hshorter, heq⟩ := parseAtom_of_group ht h hrest
    rw [h] at hor
    rw [heq, if_neg hu]
    refine .succ fun clock hclock => .group ht
      ((hor clock hclock).bindOk ((Derives.of_parseOr rest).suffix h) ?_)
    rw [hrest, close]
    exact .declines (unlike_cons.2 hu) (.looks .halts)
  case tagReads =>
    intro t rest hparen ht
    rw [parseAtom_of_ne _ hparen, if_pos ht]
    refine .succ fun clock _ => ?_
    rw [readAtom]
    refine .looks ?_
    dsimp only [List.head?_cons]
    rw [if_neg hparen, if_pos ht]
    exact .takes .done
  case atomFails =>
    intro t rest hparen ht
    rw [parseAtom_of_ne _ hparen, if_neg ht]
    refine .succ fun clock _ => ?_
    rw [readAtom]
    refine .looks ?_
    dsimp only [List.head?_cons]
    rw [if_neg hparen, if_neg ht]
    exact .halts

end

/-! ## §4. What one call does. -/

namespace Level

/-- The parser's function for a level. -/
def parse (ts : List Token) : Level → Except Fault (Parsed ts)
  | or => parseOr ts
  | and => parseAnd ts
  | not => parseNot ts
  | atom => parseAtom ts

/-- The cursor's function for a level, under a clock. -/
def read (tokens : List Token) (clock : Nat) : Level → Cursor Expr
  | or => Cursor.readOr tokens clock
  | and => Cursor.readAnd tokens clock
  | not => Cursor.readNot tokens clock
  | atom => Cursor.readAtom tokens clock

/-- An expression of a level ends where some tokens follow: none of them goes on with it. -/
def Ends (after : List Token) : Level → Prop
  | or => Unlike .and after ∧ Unlike .or after
  | and => Unlike .and after
  | not | atom => True

end Level

/-- A clock that is enough from an index on: each token that is left takes four nested calls at
most, and so does the end. -/
def enough (tokens : List Token) (i : Nat) : Nat := 4 * (tokens.length - i) + 4

/-- A token without the place where it stands. -/
def Token.look (t : Token) : Kind × String := (t.kind, t.text)

section

variable {level : Level} {tokens ts us : List Token} {clock i j : Nat} {e : Expr}

theorem reads_level (level : Level) (ts : List Token) : Reads level ts (level.parse ts) := by
  obtain ⟨hor, -, hand, -, hnot, hatom⟩ := reads_calls
  cases level with
  | or => exact hor ts
  | and => exact hand ts
  | not => exact hnot ts
  | atom => exact hatom ts

theorem follows_level (level : Level) (hclock : 4 * ts.length + 4 ≤ clock) :
    Follows tokens (level.read tokens clock) ts (level.parse ts) := by
  obtain ⟨hor, -, hand, -, hnot, hatom⟩ := follows_calls tokens
  cases level with
  | or => exact hor ts clock hclock
  | and => exact hand ts clock (by omega)
  | not => exact hnot ts clock (by omega)
  | atom => exact hatom ts clock (by omega)

/-- A reading from an index on comes to what the parser says of the tokens from there. -/
theorem runFrom_read (level : Level) (h : i ≤ tokens.length) (hclock : enough tokens i ≤ clock) :
    (level.read tokens clock).runFrom i = seen tokens (level.parse (tokens.drop i)) := by
  rw [enough, ← List.length_drop] at hclock
  have hread := follows_level level hclock (List.drop_suffix i tokens)
  rwa [place_drop h] at hread

theorem Derives.ne_nil (h : Derives level ts e) : ts ≠ [] := by
  induction h with
  | or | and | not | group | tag => simp
  | orOfAnd _ hinner | andOfNot _ hinner | notOfAtom _ hinner => exact hinner

/-- A tree that is read derives from the tokens that the cursor has passed. -/
theorem derives_of_read (h : i ≤ tokens.length) (hclock : enough tokens i ≤ clock)
    (hread : (level.read tokens clock).runFrom i = .ok (e, j)) :
    i < j ∧ j ≤ tokens.length ∧ Derives level (tokens.extract i j) e := by
  rw [runFrom_read level h hclock] at hread
  cases hp : level.parse (tokens.drop i) with
  | error f =>
    rw [hp] at hread
    cases hread
  | ok p =>
    rw [hp] at hread
    obtain ⟨used, hused, hd⟩ := reads_level level _ p hp
    cases hread
    have hlength := congrArg List.length hused
    rw [List.length_drop, List.length_append] at hlength
    have hpos := List.length_pos_iff.2 hd.ne_nil
    have hspan : place tokens p.rest - i = used.length := by
      unfold place
      omega
    have hsegment : tokens.extract i (place tokens p.rest) = used := by
      rw [List.extract, hspan, hused, List.take_left]
    refine ⟨?_, Nat.sub_le _ _, hsegment ▸ hd⟩
    omega

/-- What derives is read where it ends, by the function of its level. -/
theorem Derives.parse (h : Derives level us e) {after : List Token} (hends : level.Ends after) :
    ∃ p : Parsed (us ++ after),
      p.expr = e ∧ p.rest = after ∧ level.parse (us ++ after) = .ok p := by
  cases level with
  | or => exact h.completes.parseOr hends.1 hends.2
  | and => exact h.completes.parseAnd hends
  | not => exact h.completes after
  | atom => exact h.completes after

/-- What derives is read wherever it stands and ends. -/
theorem Derives.read (h : Derives level us e) (before : List Token) {after : List Token}
    (hends : level.Ends after)
    (hclock : enough (before ++ us ++ after) before.length ≤ clock) :
    (level.read (before ++ us ++ after) clock).runFrom before.length
      = .ok (e, before.length + us.length) := by
  obtain ⟨p, rfl, hrest, hp⟩ := h.parse hends
  have hdrop : (before ++ us ++ after).drop before.length = us ++ after := by
    rw [List.append_assoc, List.drop_left]
  have hend : place (before ++ us ++ after) p.rest = before.length + us.length := by
    rw [hrest, place_append, List.length_append]
  have hread := runFrom_read level (by simp) hclock
  rwa [hdrop, hp, seen, hend] at hread

/-- Every expression is also one of the loosest level. -/
theorem Derives.loosen (h : Derives level ts e) : Derives .or ts e := by
  cases level with
  | or => exact h
  | and => exact .orOfAnd h
  | not => exact .orOfAnd (.andOfNot h)
  | atom => exact .orOfAnd (.andOfNot (.notOfAtom h))

/-- Tokens that look like a chain are one, with an operator of the same kind. -/
theorem split_of_look {vs : List Token} {t : Token}
    (h : us.map Token.look = (ts ++ t :: vs).map Token.look) :
    ∃ ls u rs, us = ls ++ u :: rs ∧ ls.map Token.look = ts.map Token.look ∧ u.kind = t.kind ∧
      rs.map Token.look = vs.map Token.look := by
  rw [List.map_append, List.map_cons, List.map_eq_append_iff] at h
  obtain ⟨ls, rest, rfl, hls, hrest⟩ := h
  obtain ⟨u, rs, rfl, hu, hrs⟩ := List.map_eq_cons_iff.1 hrest
  exact ⟨ls, u, rs, rfl, hls, congrArg Prod.fst hu, hrs⟩

/-- What derives does not depend on where the tokens stand. -/
theorem Derives.congr (h : Derives level ts e) (hlook : us.map Token.look = ts.map Token.look) :
    Derives level us e := by
  induction h generalizing us with
  | or _ ht _ hl hr =>
    obtain ⟨ls, u, rs, rfl, hls, hu, hrs⟩ := split_of_look hlook
    exact .or (hl hls) (hu.trans ht) (hr hrs)
  | and _ ht _ hl hr =>
    obtain ⟨ls, u, rs, rfl, hls, hu, hrs⟩ := split_of_look hlook
    exact .and (hl hls) (hu.trans ht) (hr hrs)
  | orOfAnd _ hinner => exact .orOfAnd (hinner hlook)
  | andOfNot _ hinner => exact .andOfNot (hinner hlook)
  | notOfAtom _ hinner => exact .notOfAtom (hinner hlook)
  | not ht _ hoperand =>
    obtain ⟨u, rest, rfl, hu, hrest⟩ := List.map_eq_cons_iff.1 hlook
    exact .not ((congrArg Prod.fst hu).trans ht) (hoperand hrest)
  | group ht _ hclosed hinner =>
    rw [List.map_append, List.map_eq_append_iff] at hlook
    obtain ⟨front, last, rfl, hfront, hlast⟩ := hlook
    obtain ⟨u, inner, rfl, hu, hin⟩ := List.map_eq_cons_iff.1 hfront
    obtain ⟨v, rest, rfl, hv, hrest⟩ := List.map_eq_cons_iff.1 hlast
    rw [List.map_eq_nil_iff.1 hrest]
    exact .group ((congrArg Prod.fst hu).trans ht) (hinner hin)
      ((congrArg Prod.fst hv).trans hclosed)
  | @tag t ht =>
    obtain ⟨u, rest, rfl, hu, hrest⟩ := List.map_eq_cons_iff.1 hlook
    rw [List.map_eq_nil_iff.1 hrest, ← show u.text = t.text from congrArg Prod.snd hu]
    exact .tag ((congrArg Prod.fst hu).trans ht)

/-- **A call of the parser moves the cursor on, inside the tokens, and what it passes makes
the tree.**  From any index on, and under any clock that is enough, the reading of any level
ends as the parser's function of that level does on the tokens from there: with a syntax
error, or with a tree and the cursor further on, behind the last token at most.  It neither
runs out of the clock nor takes a token that is not there.  Tokens that look like those that
were passed are read as the same tree wherever they stand, if nothing behind goes on with
them, and any function that passes such tokens makes it. -/
theorem read_local (tokens : List Token) (i clock : Nat) (hi : i ≤ tokens.length)
    (hclock : enough tokens i ≤ clock) (level : Level) :
    (level.read tokens clock).runFrom i = seen tokens (level.parse (tokens.drop i)) ∧
    ((∃ fault, (level.read tokens clock).runFrom i = .error (.fault fault)) ∨
      ∃ e j, (level.read tokens clock).runFrom i = .ok (e, j) ∧ i < j ∧ j ≤ tokens.length ∧
        (∀ before passed after clock',
          passed.map Token.look = (tokens.extract i j).map Token.look → level.Ends after →
          enough (before ++ passed ++ after) before.length ≤ clock' →
          (level.read (before ++ passed ++ after) clock').runFrom before.length
            = .ok (e, before.length + passed.length)) ∧
        ∀ (level' : Level) (others : List Token) (k clock' : Nat) (e' : Expr) (m : Nat),
          k ≤ others.length → enough others k ≤ clock' →
          (level'.read others clock').runFrom k = .ok (e', m) →
          (others.extract k m).map Token.look = (tokens.extract i j).map Token.look →
          e' = e) := by
  have hread := runFrom_read level hi hclock
  refine ⟨hread, ?_⟩
  cases hp : level.parse (tokens.drop i) with
  | error fault =>
    rw [hp] at hread
    exact .inl ⟨fault, hread⟩
  | ok p =>
    rw [hp] at hread
    obtain ⟨hlt, hle, hd⟩ := derives_of_read hi hclock hread
    refine .inr ⟨p.expr, place tokens p.rest, hread, hlt, hle, ?alone, ?alike⟩
    case alone =>
      intro before passed after clock' hlook hends hclock'
      exact (hd.congr hlook).read before hends hclock'
    case alike =>
      intro level' others k clock' e' m hk hclock' hothers hlook
      obtain ⟨-, -, hd'⟩ := derives_of_read hk hclock' hothers
      exact hd'.loosen.unique (hd.congr hlook).loosen

/-- A group inside a filter, and the same group by itself and behind another operator. -/
theorem read_local_sample :
    let tokens := tokenize "NOT (a OR b) AND c"
    let e : Expr := .or (.tag "a") (.tag "b")
    1 ≤ tokens.length ∧ enough tokens 1 = 32 ∧
      (Level.atom.read tokens 32).runFrom 1 = .ok (e, 6) ∧
      (Level.atom.read (tokenize "(a OR b)") 24).runFrom 0 = .ok (e, 5) ∧
      ∀ e', (Level.or.read (tokenize "x AND (a OR b)") 24).runFrom 2 = .ok (e', 7) → e' = e := by
  intro tokens e
  have hlength : 1 ≤ tokens.length := by decide +kernel
  have henough : enough tokens 1 = 32 := by decide +kernel
  have hread : (Level.atom.read tokens 32).runFrom 1 = .ok (e, 6) := by rfl
  obtain ⟨-, ⟨fault, hfault⟩ | ⟨e₀, j, hsome, -, -, halone, halike⟩⟩ :=
    read_local tokens 1 32 hlength (Nat.le_of_eq henough) .atom
  · rw [hread] at hfault
    cases hfault
  · rw [hread] at hsome
    cases hsome
    refine ⟨hlength, henough, hread, ?_, fun e' he' => ?_⟩
    · exact halone [] (tokenize "(a OR b)") [] 24 (by decide +kernel) trivial (by decide +kernel)
    · exact halike .or _ 2 24 e' 7 (by decide +kernel) (by decide +kernel) he' (by decide +kernel)

end

end Mailroom.Filter
