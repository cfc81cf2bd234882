import Mailroom.Proofs.Yaml.Lexing
import Mailroom.Yaml.Document
/-!
  Mailroom.Proofs.Yaml.Composing
  ────────────────────────────────
  **WHAT CAN BE WRONG WITH THE TREE OF A TEXT.**

  Readers of nodes add no fault of their own but that a text is malformed.  They hand on the one
  behind the tokens, when they run out of these, and keep it for the readers behind them.  The
  seven readers that call each other are taken in one induction on their fuel.

      Orderly           — a reader that fails in no other way
      orderly_readers   — the readers that call each other
      lexical_compose   — the faults of a text without a tree
-/
namespace Mailroom.Yaml

/-! ## §1. Readers that add no fault. -/

/-- A fault is the one behind the tokens, or says that the text is malformed. -/
def Fault.Follows (f ending : Fault) : Prop := f = .malformed ∨ f = ending

namespace NodeReader

section

variable {α β : Type}

/-- A reader keeps the fault behind the tokens, and fails with this one or because the text is
malformed. -/
def Orderly (m : NodeReader α) : Prop :=
  ∀ r, match m r with
    | .ok (_, r') => r'.ending = r.ending
    | .error f => f.Follows r.ending

theorem orderly_pure (a : α) : Orderly (pure a : NodeReader α) := fun _ => rfl

theorem orderly_fail : Orderly (fail : NodeReader α) := fun _ => .inl rfl

theorem orderly_next : Orderly next := fun _ => rfl

theorem orderly_peek : Orderly peek := by
  rintro ⟨_ | ⟨t, ts⟩, ending, anchors, handles⟩
  · exact .inr rfl
  · rfl

theorem Orderly.bind {m : NodeReader α} {f : α → NodeReader β} (hm : Orderly m)
    (hf : ∀ a, Orderly (f a)) : Orderly (m >>= f) := by
  intro r
  have hfirst := hm r
  show match (m r >>= fun p => f p.1 p.2) with
    | .ok (_, r') => r'.ending = r.ending
    | .error f => f.Follows r.ending
  cases hr : m r with
  | error e =>
    rw [hr] at hfirst
    exact hfirst
  | ok p =>
    rw [hr] at hfirst
    have hrest := hf p.1 p.2
    -- The second reader meets the fault that the first one kept.
    rw [show p.2.ending = r.ending from hfirst] at hrest
    exact hrest

/-- A reader may look at its state. -/
theorem orderly_get_bind {f : Reading → NodeReader β} (hf : ∀ r, Orderly (f r)) :
    Orderly (get >>= f) := .bind (fun _ => rfl) hf

theorem Orderly.ite {c : Prop} [Decidable c] {m m' : NodeReader α} (hm : Orderly m)
    (hm' : Orderly m') : Orderly (if c then m else m') := by
  split
  · exact hm
  · exact hm'

end

theorem orderly_accept (t : Token) : Orderly (accept t) :=
  .bind orderly_peek fun _ => .ite (.bind orderly_next fun _ => orderly_pure _) (orderly_pure _)

theorem orderly_isAt (ts : List Token) : Orderly (isAt ts) :=
  .bind orderly_peek fun _ => orderly_pure _

theorem orderly_demand (t : Token) : Orderly (demand t) :=
  .bind (orderly_accept t) fun _ => .ite orderly_fail (orderly_pure _)

theorem orderly_remember (anchor : Option String) (n : Node) : Orderly (remember anchor n) := by
  cases anchor <;> exact fun _ => rfl

theorem orderly_fullTag (handle : Option String) (suffix : String) :
    Orderly (fullTag handle suffix) := by
  unfold fullTag
  split
  · exact orderly_pure _
  · refine orderly_get_bind fun r => ?_
    split
    · exact orderly_pure _
    · exact orderly_fail

theorem orderly_properties : Orderly properties := by
  unfold properties
  refine .bind orderly_peek fun t => ?_
  split
  · refine .bind orderly_next fun _ => .bind orderly_peek fun t => ?_
    split
    · exact .bind orderly_next fun _ => .bind (orderly_fullTag _ _) fun _ => orderly_pure _
    · exact orderly_pure _
  · refine .bind orderly_next fun _ => .bind orderly_peek fun t => ?_
    split
    · exact .bind orderly_next fun _ => .bind (orderly_fullTag _ _) fun _ => orderly_pure _
    · exact .bind (orderly_fullTag _ _) fun _ => orderly_pure _
  · exact orderly_pure _

theorem orderly_aliased (name : String) : Orderly (aliased name) := by
  refine orderly_get_bind fun r => ?_
  split
  · exact orderly_pure _
  · exact orderly_fail

theorem orderly_blank (anchor tag : Option String) : Orderly (node.blank anchor tag) :=
  .bind (orderly_remember _ _) fun _ => orderly_pure _

/-! ## §2. The readers that call each other. -/

/-- All readers of nodes are orderly with some fuel. -/
structure AllOrderly (fuel : Nat) : Prop where
  node : ∀ place, Orderly (node place fuel)
  nodeUnless : ∀ place ends, Orderly (nodeUnless place ends fuel)
  blockEntries : Orderly (blockEntries fuel)
  looseEntries : Orderly (looseEntries fuel)
  blockFields : Orderly (blockFields fuel)
  listItems : ∀ first, Orderly (listItems first fuel)
  braceFields : ∀ first, Orderly (braceFields first fuel)

section

variable {fuel : Nat} (h : AllOrderly fuel)

include h

theorem orderly_node (place : Place) : Orderly (node place (fuel + 1)) := by
  unfold node
  refine .bind orderly_peek fun t => ?_
  split
  · exact .bind orderly_next fun _ => orderly_aliased _
  · refine .bind orderly_properties fun found => ?_
    obtain ⟨anchor, tag⟩ := found
    refine .bind orderly_peek fun start => ?_
    -- The node itself is read behind the test that its anchor is new.
    extract_lets collection anchored
    have hcollection : ∀ k read, Orderly read → Orderly (collection k read) :=
      fun k read hread => .bind (orderly_remember _ _) fun _ =>
        .bind hread fun _ => .bind (orderly_remember _ _) fun _ => orderly_pure _
    have hanchored : ∀ u, Orderly (anchored u) := by
      intro u
      unfold anchored
      have hblank := Orderly.ite (c := (anchor.isSome || tag.isSome) = true)
        (orderly_blank anchor tag) orderly_fail
      split
      · exact .bind orderly_next fun _ => .bind (orderly_remember _ _) fun _ => orderly_pure _
      · exact .ite (hcollection _ _ (.bind h.looseEntries fun _ => orderly_pure _)) hblank
      · refine .bind orderly_next fun _ => hcollection _ _ ?_
        exact .bind (h.listItems _) fun _ => orderly_pure _
      · refine .bind orderly_next fun _ => hcollection _ _ ?_
        exact .bind (h.braceFields _) fun _ => orderly_pure _
      · refine .ite orderly_fail (.bind orderly_next fun _ => hcollection _ _ ?_)
        exact .bind h.blockEntries fun _ => orderly_pure _
      · refine .ite orderly_fail (.bind orderly_next fun _ => hcollection _ _ ?_)
        exact .bind h.blockFields fun _ => orderly_pure _
      · exact hblank
    split
    · exact orderly_get_bind fun _ => .ite (.bind orderly_fail hanchored) (hanchored ())
    · exact hanchored ()

theorem orderly_nodeUnless (place : Place) (ends : List Token) :
    Orderly (nodeUnless place ends (fuel + 1)) := by
  unfold nodeUnless
  exact .bind (orderly_isAt _) fun _ => .ite (orderly_pure _) (h.node _)

theorem orderly_blockEntries : Orderly (blockEntries (fuel + 1)) := by
  unfold blockEntries
  refine .bind (orderly_accept _) fun _ => .ite ?_ ?_
  · exact .bind (h.nodeUnless _ _) fun _ => .bind h.blockEntries fun _ => orderly_pure _
  · exact .bind (orderly_demand _) fun _ => orderly_pure _

theorem orderly_looseEntries : Orderly (looseEntries (fuel + 1)) := by
  unfold looseEntries
  refine .bind (orderly_accept _) fun _ => .ite ?_ (orderly_pure _)
  exact .bind (h.nodeUnless _ _) fun _ => .bind h.looseEntries fun _ => orderly_pure _

theorem orderly_blockFields : Orderly (blockFields (fuel + 1)) := by
  unfold blockFields
  refine .bind (orderly_accept _) fun _ => .ite ?_ ?_
  · refine .bind (h.nodeUnless _ _) fun _ => .bind (orderly_accept _) fun _ => ?_
    extract_lets rest
    have hrest : ∀ v, Orderly (rest v) := fun _ => .bind h.blockFields fun _ => orderly_pure _
    exact .ite (.bind (h.nodeUnless _ _) hrest) (.bind (orderly_pure _) hrest)
  · exact .bind (orderly_demand _) fun _ => orderly_pure _

theorem orderly_listItems (first : Bool) : Orderly (listItems first (fuel + 1)) := by
  unfold listItems
  refine .bind (orderly_accept _) fun _ => .ite (orderly_pure _) ?_
  extract_lets item
  have hitem : ∀ u, Orderly (item u) := by
    refine fun _ => .bind (orderly_accept _) fun _ => .ite ?_ ?_
    · refine .bind (h.nodeUnless _ _) fun _ => .bind (orderly_accept _) fun _ => ?_
      extract_lets rest
      have hrest : ∀ v, Orderly (rest v) :=
        fun _ => .bind (h.listItems _) fun _ => orderly_pure _
      exact .ite (.bind (h.nodeUnless _ _) hrest) (.bind (orderly_pure _) hrest)
    · refine .bind (orderly_accept _) fun _ => .ite (orderly_pure _) ?_
      exact .bind (h.node _) fun _ => .bind (h.listItems _) fun _ => orderly_pure _
  exact .ite (.bind (orderly_demand _) hitem) (hitem ())

theorem orderly_braceFields (first : Bool) : Orderly (braceFields first (fuel + 1)) := by
  unfold braceFields
  refine .bind (orderly_accept _) fun _ => .ite (orderly_pure _) ?_
  extract_lets item
  have hitem : ∀ u, Orderly (item u) := by
    refine fun _ => .bind (orderly_accept _) fun _ => .ite ?_ ?_
    · refine .bind (h.nodeUnless _ _) fun _ => .bind (orderly_accept _) fun _ => ?_
      extract_lets rest
      have hrest : ∀ v, Orderly (rest v) :=
        fun _ => .bind (h.braceFields _) fun _ => orderly_pure _
      exact .ite (.bind (h.nodeUnless _ _) hrest) (.bind (orderly_pure _) hrest)
    · refine .bind (orderly_accept _) fun _ => .ite (orderly_pure _) ?_
      exact .bind (h.node _) fun _ => .bind (h.braceFields _) fun _ => orderly_pure _
  exact .ite (.bind (orderly_demand _) hitem) (hitem ())

end

/-- **All readers of nodes are orderly.** -/
theorem orderly_readers : ∀ fuel, AllOrderly fuel
  | 0 => by
    constructor
    all_goals intros
    all_goals exact orderly_fail
  | fuel + 1 =>
    have h := orderly_readers fuel
    { node := orderly_node h
      nodeUnless := orderly_nodeUnless h
      blockEntries := orderly_blockEntries h
      looseEntries := orderly_looseEntries h
      blockFields := orderly_blockFields h
      listItems := orderly_listItems h
      braceFields := orderly_braceFields h }

/-! ## §3. Documents. -/

theorem orderly_content (fuel : Nat) : Orderly (content fuel) := by
  refine .bind orderly_peek fun t => ?_
  split
  all_goals first | exact orderly_pure _ | exact (orderly_readers fuel).node _

theorem fails_directives (ending : Fault) (versioned : Bool) (handles : List (String × String))
    (tokens : List Token) :
    Fails (·.Follows ending) (directives ending versioned handles tokens) := by
  fun_induction directives ending versioned handles tokens
  all_goals first | exact .inl rfl | exact .inr rfl | trivial

theorem Orderly.fails {α : Type} {m : NodeReader α} (h : Orderly m) (r : Reading) :
    Fails (·.Follows r.ending) (m.run r) := by
  have hr := h r
  show Fails _ (m r)
  cases hm : m r with
  | ok p => trivial
  | error f =>
    rw [hm] at hr
    exact hr

/-- **The faults of a document**: the one behind its tokens, or that it is malformed. -/
theorem fails_document (tokens : Tokens) :
    Fails (·.Follows tokens.ending) (document tokens) := by
  unfold document
  extract_lets ending list fuel announced finished
  have hfinished : ∀ found, Fails (·.Follows ending) (finished found) := by
    intro found
    unfold finished
    split
    split
    · trivial
    · exact .inr rfl
    · exact .inl rfl
  refine .ite trivial (.ite ?_ ?_)
  · refine .bind (fails_directives _ _ _ _) fun _ => .bind ?_ hfinished
    exact (orderly_content fuel).fails _
  · refine .bind ?_ hfinished
    exact ((orderly_readers fuel).node _).fails _

end NodeReader

/-- **The faults of a text without a tree** are those of readers of tokens. -/
theorem lexical_compose (text : String) : Lexical (compose text) := by
  refine (NodeReader.fails_document _).mono fun f hf => ?_
  rcases hf with rfl | rfl
  · exact .malformed
  · exact isLexical_ending _

end Mailroom.Yaml
