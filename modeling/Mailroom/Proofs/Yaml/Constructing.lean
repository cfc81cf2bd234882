import Mailroom.Proofs.Yaml.Composing
/-!
  Mailroom.Proofs.Yaml.Constructing
  ────────────────────────────────
  **WHAT CAN BE WRONG WITH THE VALUE OF A TREE.**

  A tree that has no value is malformed, or one of its parts is: a scalar, or a mapping that
  stands for one, marked or taken as a truth value, a number or a point in time, whose text is
  none.  The parts are taken where the functions that build values go: items, fields, the fields
  of merge keys.

      Node.Within       — parts of a tree
      Node.Blamed       — where a fault can come from
      Node.blamed_build — the faults of a tree, by induction on it
      Node.fails_value  — the fault of a tree that has no value
      load_eq_error_iff — texts without a value
-/
namespace Mailroom.Yaml

/-! ## §1. Parts of a tree. -/

/-- A part of a node: the node itself, or a part of an item, of a key or of a value. -/
inductive Node.Within : Node → Node → Prop where
  | self (n : Node) : Within n n
  | item {m n : Node} {tag : String} {items : List Node} :
    n ∈ items → Within m n → Within m (.sequence tag items)
  | key {m k v : Node} {tag : String} {fields : List (Node × Node)} :
    (k, v) ∈ fields → Within m k → Within m (.mapping tag fields)
  | value {m k v : Node} {tag : String} {fields : List (Node × Node)} :
    (k, v) ∈ fields → Within m v → Within m (.mapping tag fields)

/-- The tags of truth values, numbers and points in time. -/
def exactTags : List String := ["bool", "int", "float", "timestamp"].map standard

/-- A node is marked as a truth value, a number or a point in time that it is not. -/
structure Node.Misspelt (n : Node) (f : Fault) : Prop where
  tag : n.tag ∈ exactTags
  fault : n.scalarAs n.tag = .error f
  named : f ≠ .malformed

/-- A fault that a node can have: it is malformed, or a part of it is misspelt. -/
def Node.Blamed (n : Node) (f : Fault) : Prop :=
  f = .malformed ∨ ∃ m : Node, m.Within n ∧ m.Misspelt f

section

variable {n : Node} {f : Fault}

theorem Node.blamed_malformed (n : Node) : n.Blamed .malformed := .inl rfl

theorem Node.Blamed.mono {m : Node} (h : m.Blamed f)
    (hwithin : ∀ l : Node, l.Within m → l.Within n) : n.Blamed f := by
  rcases h with h | ⟨l, hl, hmisspelt⟩
  · exact .inl h
  · exact .inr ⟨l, hwithin l hl, hmisspelt⟩

end

/-! ## §2. Scalars. -/

mutual

theorem Node.fails_text : ∀ n : Node, Fails (· = .malformed) n.text
  | .scalar _ _ => trivial
  | .mapping _ fields => by
    unfold Node.text
    exact fails_defaultText fields
  | .sequence _ _ => rfl
  | .enclosing _ _ => rfl

theorem fails_defaultText :
    ∀ fields : List (Node × Node), Fails (· = .malformed) (defaultText fields)
  | [] => rfl
  | (_, v) :: rest => by
    unfold defaultText
    exact .ite (Node.fails_text v) (fails_defaultText rest)

end

theorem fails_octetsOf (text : String) : Fails (· = .malformed) (octetsOf text) := by
  refine .ite rfl ?_
  split
  · trivial
  · rfl

/-- What is not marked as a truth value, a number or a point in time is malformed, if it has no
value. -/
theorem fails_scalarValue (tag text : String) :
    Fails (fun f => f = .malformed ∨ tag ∈ exactTags) (scalarValue tag text) := by
  by_cases htag : tag ∈ exactTags
  · exact .of_forall fun _ => .inr htag
  · have hne : ∀ name ∈ ["bool", "int", "float", "timestamp"], ¬ (tag == standard name) = true :=
      fun name hname heq => htag (eq_of_beq heq ▸ List.mem_map_of_mem hname)
    unfold scalarValue
    rw [if_neg (hne "bool" (by decide)), if_neg (hne "int" (by decide)),
      if_neg (hne "float" (by decide)), if_neg (hne "timestamp" (by decide))]
    have hoctets := (fails_octetsOf text).map Value.octets
    exact .ite trivial (.ite trivial (.ite (hoctets.mono fun _ => .inl) (.inl rfl)))

theorem Node.fails_scalarAs (tag : String) (n : Node) :
    Fails (fun f => f = .malformed ∨ tag ∈ exactTags) (n.scalarAs tag) := by
  unfold Node.scalarAs
  refine .bind (n.fails_text.mono fun _ => .inl) fun text => ?_
  extract_lets rest
  have hrest : ∀ u, Fails _ (rest u) := fun _ => fails_scalarValue tag text
  split
  · split
    · next htime => exact .inr (eq_of_beq htime ▸ by decide)
    · exact hrest ()
  · exact hrest ()

/-- A node that is marked as a scalar is misspelt, if it has no value and is not malformed. -/
theorem Node.fails_blamed (n : Node) : Fails n.Blamed (n.scalarAs n.tag) := by
  have hfails := n.fails_scalarAs n.tag
  cases h : n.scalarAs n.tag with
  | ok v => trivial
  | error f =>
    rw [h] at hfails
    by_cases hmalformed : f = .malformed
    · exact .inl hmalformed
    · exact .inr ⟨n, .self n, hfails.resolve_left hmalformed, h, hmalformed⟩

theorem keyTag_of_mem {tag : String} (h : keyTag tag ∈ exactTags) : keyTag tag = tag := by
  unfold keyTag at h ⊢
  split
  · next hdefault =>
    rw [if_pos hdefault] at h
    exact absurd h (by decide)
  · rfl

/-- A key that has no value is malformed or misspelt. -/
theorem Node.fails_keyValue (k : Node) : Fails k.Blamed k.keyValue := by
  unfold Node.keyValue
  refine .ite k.blamed_malformed ?_
  -- The tag that a default key takes as a key is that of texts, so no other key changes its tag.
  by_cases htag : keyTag k.tag ∈ exactTags
  · rw [keyTag_of_mem htag]
    exact k.fails_blamed
  · exact (k.fails_scalarAs _).mono fun f hf => .inl (hf.resolve_right htag)

/-! ## §3. Faults that are collected. -/

instance : LawfulMonad Built :=
  .mk' Built
    (fun b => congrArg (Built.mk b.value) (List.append_nil b.faults))
    (fun _ _ => rfl)
    (fun _ _ _ => congrArg (Built.mk _) (List.append_assoc _ _ _))

section

variable {α β : Type} {P : Fault → Prop}

/-- Only faults with `P` were collected. -/
def Built.Collects (P : Fault → Prop) (b : Built α) : Prop := ∀ f ∈ b.faults, P f.2

theorem Built.collects_pure (a : α) : (pure a : Built α).Collects P := nofun

theorem Built.collects_fail (depth : Nat) {f : Fault} (h : P f) :
    (Built.fail depth f).Collects P := by
  intro g hg
  obtain rfl := List.mem_singleton.1 hg
  exact h

theorem Built.Collects.bind {b : Built α} {f : α → Built β} (hb : b.Collects P)
    (hf : ∀ a, (f a).Collects P) : (b >>= f).Collects P := by
  intro g hg
  rcases List.mem_append.1 hg with hg | hg
  · exact hb g hg
  · exact hf _ g hg

theorem Built.Collects.map {b : Built α} {f : α → β} (hb : b.Collects P) :
    (f <$> b).Collects P := .bind hb fun _ => Built.collects_pure _

theorem Built.Collects.ite {c : Prop} [Decidable c] {b b' : Built α} (hb : b.Collects P)
    (hb' : b'.Collects P) : (if c then b else b').Collects P := by
  split
  · exact hb
  · exact hb'

theorem Built.Collects.mono {Q : Fault → Prop} {b : Built α} (hb : b.Collects P)
    (h : ∀ f, P f → Q f) : b.Collects Q := fun g hg => h _ (hb g hg)

theorem Built.collects_ofExcept (depth : Nat) {x : Except Fault Value} (h : Fails P x) :
    (Built.ofExcept depth x).Collects P := by
  cases x with
  | ok v => exact Built.collects_pure v
  | error f => exact Built.collects_fail _ h

/-- A series collects the faults of its members. -/
theorem Built.collects_mapM {bs : List (Built α)} (h : ∀ b ∈ bs, b.Collects P) :
    (bs.mapM id).Collects P := by
  induction bs with
  | nil => exact Built.collects_pure []
  | cons b bs ih =>
    rw [List.forall_mem_cons] at h
    rw [List.mapM_cons]
    exact .bind h.1 fun _ => .bind (ih h.2) fun _ => Built.collects_pure _

theorem earliest?_mem {fs : List (Nat × Fault)} {f : Nat × Fault} (h : earliest? fs = some f) :
    f ∈ fs := by
  induction fs generalizing f with
  | nil => cases h
  | cons g fs ih =>
    unfold earliest? at h
    cases hrest : earliest? fs with
    | none =>
      rw [hrest] at h
      obtain rfl := Option.some.inj h
      exact List.mem_cons_self
    | some e =>
      rw [hrest] at h
      obtain rfl := Option.some.inj h
      split
      · exact List.mem_cons_of_mem _ (ih hrest)
      · exact List.mem_cons_self

/-- What is met first is one of the faults. -/
theorem Built.Collects.toExcept {b : Built α} (h : b.Collects P) : Fails P b.toExcept := by
  unfold Built.toExcept
  split
  · next f hf => exact h f (earliest?_mem hf)
  · trivial

end

/-! ## §4. The faults of a tree. -/

/-- A fault that some nodes can have. -/
def BlamedItems (items : List Node) (f : Fault) : Prop := ∃ n ∈ items, n.Blamed f

/-- A fault that some fields can have. -/
def BlamedFields (fields : List (Node × Node)) (f : Fault) : Prop :=
  ∃ k v : Node, (k, v) ∈ fields ∧ (k.Blamed f ∨ v.Blamed f)

section

variable {f : Fault} {tag : String} {items : List Node} {fields : List (Node × Node)}

theorem BlamedItems.sequence (h : BlamedItems items f) : (Node.sequence tag items).Blamed f := by
  obtain ⟨n, hn, hblamed⟩ := h
  exact hblamed.mono fun _ => .item hn

theorem BlamedFields.mapping (h : BlamedFields fields f) : (Node.mapping tag fields).Blamed f := by
  obtain ⟨k, v, hmem, hblamed | hblamed⟩ := h
  · exact hblamed.mono fun _ => .key hmem
  · exact hblamed.mono fun _ => .value hmem

theorem BlamedItems.cons {n : Node} (h : BlamedItems items f) : BlamedItems (n :: items) f := by
  obtain ⟨m, hm, hblamed⟩ := h
  exact ⟨m, List.mem_cons_of_mem _ hm, hblamed⟩

theorem BlamedFields.cons {field : Node × Node} (h : BlamedFields fields f) :
    BlamedFields (field :: fields) f := by
  obtain ⟨k, v, hmem, hblamed⟩ := h
  exact ⟨k, v, List.mem_cons_of_mem _ hmem, hblamed⟩

end

mutual

/-- **Each fault of a tree is that of a part of it**, or says that the tree is malformed. -/
theorem Node.blamed_build (depth : Nat) : ∀ n : Node, (n.build depth).Collects n.Blamed
  | .scalar tag text => by
    unfold Node.build
    split
    · exact Built.collects_fail _ (Node.blamed_malformed _)
    · exact Built.collects_ofExcept _ (Node.fails_blamed (.scalar tag text))
  | .sequence tag items => by
    have hitems := blamed_buildItems (depth + 1) items
    have hpairs := blamed_buildPairs (depth + 1) items
    have hmalformed := Node.blamed_malformed (.sequence tag items)
    unfold Node.build
    refine .ite (hitems.mono fun _ hf => hf.sequence).map (.ite ?_ ?_)
    · exact (hpairs.mono fun _ hf => hf.elim .inl BlamedItems.sequence).map
    · exact .ite (Built.collects_fail _ hmalformed) (Built.collects_fail _ hmalformed)
  | .mapping tag fields => by
    have hfields := blamed_buildFields (depth + 1) fields
    have hmalformed := Node.blamed_malformed (.mapping tag fields)
    unfold Node.build
    have hfail := Built.collects_fail (depth + 1) hmalformed
    -- A mapping or a set is built of its fields, any other mapping stands for a scalar.
    refine .ite (.ite ?_ hfail) (.ite hfail ?_)
    · refine .bind (Built.collects_mapM fun b hb => ?_) fun _ => Built.collects_pure _
      exact (hfields b hb).mono fun f hf => hf.mapping
    · exact Built.collects_ofExcept _ (Node.fails_blamed (.mapping tag fields))
  | .enclosing _ isMapping => by
    unfold Node.build
    exact Built.collects_pure _

theorem blamed_buildItems (depth : Nat) :
    ∀ items : List Node, (buildItems depth items).Collects (BlamedItems items)
  | [] => by
    unfold buildItems
    exact Built.collects_pure _
  | n :: ns => by
    have hn := Node.blamed_build depth n
    have hns := blamed_buildItems depth ns
    unfold buildItems
    refine .bind (hn.mono fun f hf => ⟨n, List.mem_cons_self, hf⟩) fun _ => ?_
    exact .bind (hns.mono fun f hf => hf.cons) fun _ => Built.collects_pure _

theorem blamed_buildPairs (depth : Nat) : ∀ items : List Node,
    (buildPairs depth items).Collects fun f => f = .malformed ∨ BlamedItems items f
  | [] => by
    unfold buildPairs
    exact Built.collects_pure _
  | .mapping tag [(k, v)] :: ns => by
    have hk := Node.blamed_build depth k
    have hv := Node.blamed_build depth v
    have hns := blamed_buildPairs depth ns
    have hmem : Node.mapping tag [(k, v)] ∈ Node.mapping tag [(k, v)] :: ns := List.mem_cons_self
    have hfield : (k, v) ∈ [(k, v)] := List.mem_cons_self
    unfold buildPairs
    refine .bind (hk.mono fun f hf => ?_) fun _ => .bind (hv.mono fun f hf => ?_) fun _ =>
      .bind (hns.mono fun f hf => hf.imp_right BlamedItems.cons) fun _ => Built.collects_pure _
    · exact .inr ⟨_, hmem, BlamedFields.mapping ⟨k, v, hfield, .inl hf⟩⟩
    · exact .inr ⟨_, hmem, BlamedFields.mapping ⟨k, v, hfield, .inr hf⟩⟩
  | .enclosing _ true :: ns => by
    have hns := blamed_buildPairs depth ns
    unfold buildPairs
    exact .bind (hns.mono fun f hf => hf.imp_right BlamedItems.cons) fun _ =>
      Built.collects_pure _
  | .scalar _ _ :: _ | .sequence _ _ :: _ | .enclosing _ false :: _ | .mapping _ [] :: _
  | .mapping _ (_ :: _ :: _) :: _ => by
    unfold buildPairs
    intro g hg
    obtain rfl := List.mem_singleton.1 hg
    exact .inl rfl

theorem blamed_buildFields (depth : Nat) : ∀ fields : List (Node × Node),
    ∀ b ∈ (buildFields depth fields).1 ++ (buildFields depth fields).2,
      b.Collects (BlamedFields fields)
  | [] => by
    unfold buildFields
    exact nofun
  | (k, v) :: rest => by
    have hv := Node.blamed_build depth v
    have hrest := blamed_buildFields depth rest
    have hmerged := blamed_mergedFields depth v
    have hfield : (k, v) ∈ (k, v) :: rest := List.mem_cons_self
    unfold buildFields
    intro b hb
    dsimp only at hb
    split at hb
    · -- A merge key: the fields that it stands for are among the merged ones.
      rw [List.append_assoc] at hb
      rcases List.mem_append.1 hb with hb | hb
      · exact (hmerged b hb).mono fun f hf => ⟨k, v, hfield, .inr hf⟩
      · exact (hrest b hb).mono fun f hf => hf.cons
    · rcases List.mem_append.1 hb with hb | hb
      · exact (hrest b (List.mem_append_left _ hb)).mono fun f hf => hf.cons
      · rcases List.mem_cons.1 hb with rfl | hb
        · have hkey := Built.collects_ofExcept depth k.fails_keyValue
          refine .bind (hkey.mono fun f hf => ⟨k, v, hfield, .inl hf⟩) fun _ => ?_
          exact .bind (hv.mono fun f hf => ⟨k, v, hfield, .inr hf⟩) fun _ => Built.collects_pure _
        · exact (hrest b (List.mem_append_right _ hb)).mono fun f hf => hf.cons

theorem blamed_mergedFields (depth : Nat) :
    ∀ n : Node, ∀ b ∈ mergedFields depth n, b.Collects n.Blamed
  | .mapping tag fields => by
    have hfields := blamed_buildFields depth fields
    unfold mergedFields
    exact fun b hb => (hfields b hb).mono fun f hf => hf.mapping
  | .sequence tag items => by
    have hitems := blamed_mergedItems depth items
    unfold mergedFields
    exact fun b hb => (hitems b hb).mono fun f hf => hf.sequence
  | .scalar _ _ | .enclosing _ _ => by
    unfold mergedFields
    exact nofun

theorem blamed_mergedItems (depth : Nat) : ∀ items : List Node, ∀ b ∈ mergedItems depth items,
    b.Collects (BlamedItems items)
  | [] => by
    unfold mergedItems
    exact nofun
  | .mapping tag fields :: rest => by
    have hfields := blamed_buildFields depth fields
    have hrest := blamed_mergedItems depth rest
    unfold mergedItems
    intro b hb
    dsimp only at hb
    rw [List.append_assoc] at hb
    rcases List.mem_append.1 hb with hb | hb
    · exact (hrest b hb).mono fun f hf => hf.cons
    · exact (hfields b hb).mono fun f hf => ⟨_, List.mem_cons_self, hf.mapping⟩
  | .scalar _ _ :: rest | .sequence _ _ :: rest | .enclosing _ _ :: rest => by
    have hrest := blamed_mergedItems depth rest
    unfold mergedItems
    exact fun b hb => (hrest b hb).mono fun f hf => hf.cons

end

/-- **The fault of a tree that has no value.** -/
theorem Node.fails_value (n : Node) : Fails n.Blamed n.value := (n.blamed_build 0).toExcept

/-! ## §5. Texts. -/

/-- A text has no value if it has no tree, or if its tree has none. -/
theorem load_eq_error_iff {text : String} {f : Fault} : load text = .error f
    ↔ compose text = .error f ∨ ∃ n, compose text = .ok (some n) ∧ n.value = .error f := by
  unfold load
  cases h : compose text with
  | error e => simp [bind, Except.bind]
  | ok root => cases root <;> simp [bind, Except.bind, pure, Except.pure]

end Mailroom.Yaml
