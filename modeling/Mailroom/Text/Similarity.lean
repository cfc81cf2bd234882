/-!
  Mailroom.Text.Similarity
  ────────────────────────────────
  **HOW MUCH TWO TEXTS HAVE IN COMMON.**

  Two texts have in common their longest common run, and what the parts before
  it and the parts behind it have in common.  They are close when this makes up
  at least three fifths of both.
-/
namespace Mailroom.Text

/-! ## §1. Common runs. -/

/-- The length of the longest common prefix. -/
def commonPrefix : List Char → List Char → Nat
  | a :: as, b :: bs => if a == b then commonPrefix as bs + 1 else 0
  | _, _ => 0

/-- A run of a text that is also a run of another: where it starts in each, and
its length. -/
structure CommonRun where
  first : Nat := 0
  second : Nat := 0
  size : Nat := 0
  deriving Repr, DecidableEq

/-- The longest run of `bs` that starts `as`; of several the first.  `i` and `j`
are the places of `as` and of `bs`. -/
def longestAt (as : List Char) (i j : Nat) (best : CommonRun) : List Char → CommonRun
  | [] => best
  | b :: bs =>
    let n := commonPrefix as (b :: bs)
    longestAt as i (j + 1) (if best.size < n then ⟨i, j, n⟩ else best) bs

/-- The longest common run; of several the first. -/
def longestFrom (bs : List Char) (i : Nat) (best : CommonRun) : List Char → CommonRun
  | [] => best
  | a :: as => longestFrom bs (i + 1) (longestAt (a :: as) i 0 best bs) as

/-- The number of characters in common runs; each step takes a run away, `fuel`
bounds the steps. -/
def commonCount : Nat → List Char → List Char → Nat
  | 0, _, _ => 0
  | fuel + 1, as, bs =>
    let run := longestFrom bs 0 {} as
    if run.size == 0 then 0
    else
      commonCount fuel (as.take run.first) (bs.take run.second) + run.size
        + commonCount fuel (as.drop (run.first + run.size)) (bs.drop (run.second + run.size))

/-! ## §2. Close texts. -/

/-- A text with what it has in common with another one, and their joint length. -/
structure Likeness where
  text : String
  common : Nat
  size : Nat
  deriving Repr, DecidableEq

/-- The likeness of a text to `word`. -/
def likeness (word text : String) : Likeness where
  text
  common := 2 * commonCount (text.length + 1) text.toList word.toList
  size := text.length + word.length

/-- Whether a text is close. -/
def Likeness.isClose (l : Likeness) : Bool := 3 * l.size ≤ 5 * l.common

/-- Whether one likeness is at least as great as another, by their texts where
they are equal. -/
def Likeness.atLeast (l m : Likeness) : Bool :=
  let a := l.common * m.size
  let b := m.common * l.size
  b < a || (a == b && !(l.text < m.text))

/-- The up to three texts that are closest to `word`, the closest first. -/
def closest (word : String) (texts : List String) : List String :=
  ((((texts.map (likeness word)).filter (·.isClose)).mergeSort Likeness.atLeast).take 3).map (·.text)

end Mailroom.Text
