import Mailroom.Config.Load
import Mailroom.Proofs.Config.Restated
/-!
  Mailroom.Proofs.Config.Overlay
  ────────────────────────────────
  **A VARIABLE OF THE ENVIRONMENT DECIDES ITS OWN FIELD, AND THE SHAPE OF ITS SECTION.**

  The overlay is a series of writes, one for each variable that is set.  A write changes what is
  found at one place and leaves all others as they are; it also turns its section into a mapping,
  whatever that was before.  Rules look at their own places, so settings and violations change
  there only.

      valueAt?_override — one write
      valueAt?_overlay  — all writes: what is found at a place that is written
      valueAt?_unset    — all writes: what is found elsewhere
      overlay_frame     — settings and violations with the environment and without it
-/
namespace Mailroom.Config

open Mailroom.Yaml

/-! ## §1. One write. -/

section

variable (fs : Fields) (section_ name value : String)

theorem field?_override_self : ∃ inner,
    Value.field? section_ (override fs section_ name value) = some (.mapping inner) := by
  unfold override
  rw [field?_concat, if_pos rfl]
  exact ⟨_, rfl⟩

variable {section_}

theorem field?_override_of_ne {key : String} (h : section_ ≠ key) :
    Value.field? key (override fs section_ name value) = Value.field? key fs := by
  unfold override
  rw [field?_concat, if_neg h]

/-- **What is found at a place after a write**: the text that was written there, and elsewhere
what was there, also in the same section. -/
theorem valueAt?_override (key field : String) :
    valueAt? (override fs section_ name value) key field
      = if (section_, name) = (key, field) then some (.text value) else valueAt? fs key field := by
  by_cases hkey : section_ = key
  · subst hkey
    simp only [valueAt?, override, field?_concat, Prod.mk.injEq, true_and, if_true]
    congr 1
    -- A section that is no mapping holds nothing, and neither does the one that takes its place.
    cases Value.field? section_ fs with
    | none => rfl
    | some v => cases v <;> rfl
  · rw [if_neg fun h => hkey (Prod.mk.inj h).1, valueAt?, field?_override_of_ne fs name value hkey,
      valueAt?]

theorem haveTextKeys_override :
    haveTextKeys (override fs section_ name value) = haveTextKeys fs := by
  simp [haveTextKeys, override]

end

/-! ## §2. All writes. -/

section

variable (env : Environment)

/-- The fields with one variable in its place, if it is set. -/
def place (fs : Fields) (o : String × String × String) : Fields :=
  match setValue? env o.1 with
  | some value => override fs o.2.1 o.2.2 value
  | none => fs

theorem overlay_eq (fs : Fields) : overlay env fs = overrides.foldl (place env) fs := rfl

theorem overlay_nil (fs : Fields) : overlay [] fs = fs := rfl

/-- A variable that is set takes the place of a field. -/
def Overridden (section_ name : String) : Prop :=
  ∃ o ∈ overrides, o.2 = (section_, name) ∧ (setValue? env o.1).isSome

instance (section_ name : String) : Decidable (Overridden env section_ name) :=
  inferInstanceAs (Decidable (∃ o ∈ overrides, _))

/-- A variable that is set takes the place of a field of a section. -/
def Touched (section_ : String) : Prop :=
  ∃ o ∈ overrides, o.2.1 = section_ ∧ (setValue? env o.1).isSome

instance (section_ : String) : Decidable (Touched env section_) :=
  inferInstanceAs (Decidable (∃ o ∈ overrides, _))

/-- No two variables are for the same field. -/
theorem overrides_nodup : (overrides.map (·.2)).Nodup := by decide

variable {env}

theorem Overridden.touched {section_ name : String} (h : Overridden env section_ name) :
    Touched env section_ := by
  obtain ⟨o, ho, hplace, hset⟩ := h
  exact ⟨o, ho, by rw [hplace], hset⟩

theorem not_touched_version : ¬ Touched env "schema_version" := by
  rintro ⟨o, ho, hsection, -⟩
  revert o
  decide

theorem valueAt?_place_of_unset {o : String × String × String} {section_ name : String}
    (h : o.2 = (section_, name) → setValue? env o.1 = none) (fs : Fields) :
    valueAt? (place env fs o) section_ name = valueAt? fs section_ name := by
  unfold place
  cases hvalue : setValue? env o.1 with
  | none => rfl
  | some value =>
    have hne : o.2 ≠ (section_, name) := fun heq => by simp [h heq] at hvalue
    rw [valueAt?_override, if_neg hne]

theorem field?_place_of_unset {o : String × String × String} {section_ : String}
    (h : o.2.1 = section_ → setValue? env o.1 = none) (fs : Fields) :
    Value.field? section_ (place env fs o) = Value.field? section_ fs := by
  unfold place
  cases hvalue : setValue? env o.1 with
  | none => rfl
  | some value =>
    have hne : o.2.1 ≠ section_ := fun heq => by simp [h heq] at hvalue
    exact field?_override_of_ne fs _ _ hne

/-- A section that is a mapping stays one. -/
theorem exists_mapping_place {o : String × String × String} {fs : Fields} {section_ : String}
    (h : ∃ inner, Value.field? section_ fs = some (.mapping inner)) :
    ∃ inner, Value.field? section_ (place env fs o) = some (.mapping inner) := by
  unfold place
  cases setValue? env o.1 with
  | none => exact h
  | some value =>
    by_cases hsection : o.2.1 = section_
    · subst hsection
      exact field?_override_self fs _ _ _
    · simpa only [field?_override_of_ne fs _ _ hsection] using h

section

variable {os : List (String × String × String)} {section_ name : String}

theorem valueAt?_foldl_of_unset (h : ∀ o ∈ os, o.2 = (section_, name) → setValue? env o.1 = none)
    (fs : Fields) :
    valueAt? (os.foldl (place env) fs) section_ name = valueAt? fs section_ name := by
  induction os generalizing fs with
  | nil => rfl
  | cons o os ih =>
    rw [List.forall_mem_cons] at h
    rw [List.foldl_cons, ih h.2, valueAt?_place_of_unset h.1]

theorem valueAt?_foldl {o : String × String × String} {value : String}
    (hnodup : (os.map (·.2)).Nodup) (ho : o ∈ os) (hvalue : setValue? env o.1 = some value)
    (fs : Fields) : valueAt? (os.foldl (place env) fs) o.2.1 o.2.2 = some (.text value) := by
  induction os generalizing fs with
  | nil => cases ho
  | cons o' os ih =>
    rw [List.map_cons, List.nodup_cons] at hnodup
    rw [List.foldl_cons]
    rcases List.mem_cons.1 ho with rfl | ho
    · -- No later write goes to the same place.
      have hlater : ∀ o' ∈ os, o'.2 = (o.2.1, o.2.2) → setValue? env o'.1 = none :=
        fun o' ho' heq => absurd (List.mem_map.2 ⟨o', ho', heq⟩) hnodup.1
      rw [valueAt?_foldl_of_unset hlater, place, hvalue]
      exact (valueAt?_override ..).trans (if_pos rfl)
    · exact ih hnodup.2 ho _

theorem field?_foldl_of_unset (h : ∀ o ∈ os, o.2.1 = section_ → setValue? env o.1 = none)
    (fs : Fields) :
    Value.field? section_ (os.foldl (place env) fs) = Value.field? section_ fs := by
  induction os generalizing fs with
  | nil => rfl
  | cons o os ih =>
    rw [List.forall_mem_cons] at h
    rw [List.foldl_cons, ih h.2, field?_place_of_unset h.1]

theorem exists_mapping_foldl {fs : Fields}
    (h : ∃ inner, Value.field? section_ fs = some (.mapping inner)) :
    ∃ inner, Value.field? section_ (os.foldl (place env) fs) = some (.mapping inner) := by
  induction os generalizing fs with
  | nil => exact h
  | cons o os ih => exact ih (exists_mapping_place h)

theorem exists_mapping_foldl_of_set {o : String × String × String} (ho : o ∈ os)
    (hset : (setValue? env o.1).isSome) (fs : Fields) :
    ∃ inner, Value.field? o.2.1 (os.foldl (place env) fs) = some (.mapping inner) := by
  induction os generalizing fs with
  | nil => cases ho
  | cons o' os ih =>
    rcases List.mem_cons.1 ho with rfl | ho
    · obtain ⟨value, hvalue⟩ := Option.isSome_iff_exists.1 hset
      have hplace : place env fs o = override fs o.2.1 o.2.2 value := by rw [place, hvalue]
      rw [List.foldl_cons, hplace]
      exact exists_mapping_foldl (field?_override_self fs _ _ _)
    · exact ih ho _

end

section

variable (fs : Fields) {section_ name : String}

/-- **A variable that is set is found in its place.** -/
theorem valueAt?_overlay {o : String × String × String} {value : String} (ho : o ∈ overrides)
    (hvalue : setValue? env o.1 = some value) :
    valueAt? (overlay env fs) o.2.1 o.2.2 = some (.text value) :=
  valueAt?_foldl overrides_nodup ho hvalue fs

/-- **Elsewhere the overlay changes nothing.** -/
theorem valueAt?_unset (h : ¬ Overridden env section_ name) :
    valueAt? (overlay env fs) section_ name = valueAt? fs section_ name := by
  refine valueAt?_foldl_of_unset (fun o ho hplace => ?_) fs
  exact Option.not_isSome_iff_eq_none.1 fun hset => h ⟨o, ho, hplace, hset⟩

theorem field?_untouched (h : ¬ Touched env section_) :
    Value.field? section_ (overlay env fs) = Value.field? section_ fs := by
  refine field?_foldl_of_unset (fun o ho hsection => ?_) fs
  exact Option.not_isSome_iff_eq_none.1 fun hset => h ⟨o, ho, hsection, hset⟩

theorem field?_touched (h : Touched env section_) :
    ∃ inner, Value.field? section_ (overlay env fs) = some (.mapping inner) := by
  obtain ⟨o, ho, rfl, hset⟩ := h
  exact exists_mapping_foldl_of_set ho hset fs

theorem haveTextKeys_overlay : haveTextKeys (overlay env fs) = haveTextKeys fs := by
  rw [overlay_eq]
  generalize overrides = os
  induction os generalizing fs with
  | nil => rfl
  | cons o os ih =>
    rw [List.foldl_cons, ih]
    unfold place
    cases setValue? env o.1 with
    | none => rfl
    | some value => exact haveTextKeys_override fs _ _

end

end

/-! ## §3. Fields without those that the environment states. -/

section

variable (env : Environment)

/-- Whether variables leave a key of a section alone. -/
def leavesKey (section_ : String) : Value → Bool
  | .text name => ¬ Overridden env section_ name
  | _ => true

/-- A section without the fields that variables take the place of; nothing is kept of a section
that is no mapping. -/
def clearedSection (section_ : String) : Value → Value
  | .mapping inner => .mapping (inner.filter fun f => leavesKey env section_ f.1)
  | _ => .mapping []

/-- The value of a key without the fields inside that variables take the place of. -/
def clearedValue : Value → Value → Value
  | .text section_, v => if Touched env section_ then clearedSection env section_ v else v
  | _, v => v

/-- The fields without those that variables take the place of. -/
def cleared (fs : Fields) : Fields := fs.map fun f => (f.1, clearedValue env f.1 f.2)

variable {env}

theorem isText_iff {key : String} {v : Value} : v.isText key ↔ v = .text key := by
  cases v <;> simp [Value.isText]

theorem field?_cleared (fs : Fields) (section_ : String) :
    Value.field? section_ (cleared env fs)
      = (Value.field? section_ fs).map (clearedValue env (.text section_)) := by
  unfold Value.field? cleared
  rw [← List.map_reverse, List.find?_map, Option.map_map]
  show Option.map _ (fs.reverse.find? fun f => f.1.isText section_) = _
  cases hfound : fs.reverse.find? fun f => f.1.isText section_ with
  | none => rfl
  | some f =>
    have htext := List.find?_some hfound
    simp [isText_iff.1 htext]

theorem field?_cleared_of_not_touched (fs : Fields) {section_ : String}
    (h : ¬ Touched env section_) :
    Value.field? section_ (cleared env fs) = Value.field? section_ fs := by
  rw [field?_cleared]
  cases Value.field? section_ fs with
  | none => rfl
  | some v => simp only [Option.map_some, clearedValue, if_neg h]

/-- A filter that decides by the key keeps all that is found under one, or nothing. -/
theorem field?_filter (keep : Value → Bool) (inner : Fields) (name : String) :
    Value.field? name (inner.filter fun f => keep f.1)
      = if keep (.text name) then Value.field? name inner else none := by
  have hkey : ∀ f : Value × Value, (keep f.1 && f.1.isText name)
      = (keep (.text name) && f.1.isText name) := by
    intro f
    cases hname : f.1.isText name with
    | false => simp
    | true => rw [isText_iff.1 hname]
  unfold Value.field?
  rw [← List.filter_reverse, List.find?_filter]
  cases hname : keep (.text name) <;> simp [hkey, hname]

/-- **What is found in the fields without those that variables take the place of.** -/
theorem valueAt?_cleared (fs : Fields) (section_ name : String) :
    valueAt? (cleared env fs) section_ name
      = if Overridden env section_ name then none else valueAt? fs section_ name := by
  have hkept : leavesKey env section_ (.text name) = !decide (Overridden env section_ name) := by
    simp [leavesKey]
  unfold valueAt?
  by_cases htouched : Touched env section_
  · rw [field?_cleared]
    cases Value.field? section_ fs with
    | none => simp
    | some v =>
      simp only [Option.map_some, clearedValue, if_pos htouched]
      cases v with
      | mapping inner =>
        simp only [clearedSection, field?_filter, hkept]
        by_cases h : Overridden env section_ name <;> simp [h]
      | _ => simp [clearedSection, Value.field?]
  · have hname : ¬ Overridden env section_ name := fun h => htouched h.touched
    rw [if_neg hname, field?_cleared_of_not_touched fs htouched]

end

/-! ## §4. Settings and violations with the environment and without it. -/

section

variable {fs gs : Fields} {section_ name : String}

/-- **What settings say of a field hangs on the value at its place alone.** -/
theorem valueAt?_settings_congr (h : valueAt? fs section_ name = valueAt? gs section_ name) :
    valueAt? (settings fs).value.fields section_ name
      = valueAt? (settings gs).value.fields section_ name := by
  by_cases hrule : ∃ p ∈ schema, ∃ r ∈ p.rules, (p.name, r.name) = (section_, name)
  · obtain ⟨p, hp, r, hr, heq⟩ := hrule
    obtain ⟨rfl, rfl⟩ := Prod.mk.inj heq
    rw [valueAt?_settings hp hr, valueAt?_settings hp hr, h]
  · have hnone : ∀ p ∈ schema, ∀ r ∈ p.rules, (p.name, r.name) ≠ (section_, name) :=
      fun p hp r hr heq => hrule ⟨p, hp, r, hr, heq⟩
    rw [valueAt?_settings_of_forall_ne hnone, valueAt?_settings_of_forall_ne hnone]

theorem schemaVersion_congr
    (h : Value.field? "schema_version" fs = Value.field? "schema_version" gs) :
    (settings fs).value.schemaVersion = (settings gs).value.schemaVersion := by
  simp only [settings, bind, pure, field_value, h]

end

section

variable {env : Environment}

/-- The places that the environment decides: the fields that variables take the place of, and
the sections that hold them. -/
def Decided (env : Environment) (path : String) : Prop :=
  ∃ o ∈ overrides, (setValue? env o.1).isSome ∧ (path = o.2.1 ∨ path = o.2.1 ++ "." ++ o.2.2)

instance (path : String) : Decidable (Decided env path) :=
  inferInstanceAs (Decidable (∃ o ∈ overrides, _))

theorem Touched.decided {section_ : String} (h : Touched env section_) : Decided env section_ := by
  obtain ⟨o, ho, hsection, hset⟩ := h
  exact ⟨o, ho, hset, .inl hsection.symm⟩

theorem Overridden.decided {p : Part} {r : Rule} (h : Overridden env p.name r.name) :
    Decided env (p.path r) := by
  obtain ⟨o, ho, hplace, hset⟩ := h
  refine ⟨o, ho, hset, .inr ?_⟩
  rw [hplace, Part.path]

/-- **Violations at places that the environment does not decide** are those without it. -/
theorem mem_violations_overlay (fs : Fields) {v : String × Violation} (h : ¬ Decided env v.1) :
    v ∈ (settings (overlay env fs)).violations ↔ v ∈ (settings fs).violations := by
  have hpart : ∀ p ∈ schema, (v ∈ p.faultsOf (overlay env fs) ↔ v ∈ p.faultsOf fs) := by
    intro p _
    rw [Part.mem_faultsOf_iff, Part.mem_faultsOf_iff]
    refine or_congr (and_congr_right fun hv => ?_) ?_
    · have huntouched : ¬ Touched env p.name := fun htouched => h (hv ▸ htouched.decided)
      rw [field?_untouched fs huntouched]
    · refine exists_congr fun r => and_congr_right fun _ => ?_
      by_cases hset : Overridden env p.name r.name
      · -- Faults of the field differ, but they are all at a place that is decided.
        have hother : ∀ x, v ∉ r.faultsOf (p.path r) x := fun x hv =>
          h ((fst_of_mem_faultsAt hv).symm ▸ hset.decided)
        exact iff_of_false (hother _) (hother _)
      · rw [valueAt?_unset fs hset]
  rw [violations_settings, violations_settings, field?_untouched fs not_touched_version,
    List.mem_append, List.mem_append, List.mem_flatMap, List.mem_flatMap]
  exact or_congr_right (exists_congr fun p => and_congr_right (hpart p))

/-- Nothing is wrong with the fields without those that variables take the place of, if nothing
is wrong with the variables in their places. -/
theorem violations_cleared {fs : Fields} (h : (settings (overlay env fs)).violations = []) :
    (settings (cleared env fs)).violations = [] := by
  obtain ⟨hversion, hparts⟩ := (accepted_iff _).1 h
  refine (accepted_iff _).2 ⟨?_, fun p hp => ⟨fun v hv => ?_, fun r hr => ?_⟩⟩
  · rw [field?_cleared_of_not_touched fs not_touched_version,
      ← field?_untouched fs not_touched_version]
    exact hversion
  · by_cases htouched : Touched env p.name
    · rw [field?_cleared] at hv
      obtain ⟨x, -, rfl⟩ := Option.map_eq_some_iff.1 hv
      rw [clearedValue, if_pos htouched]
      cases x <;> exact ⟨_, rfl⟩
    · rw [field?_cleared_of_not_touched fs htouched, ← field?_untouched fs htouched] at hv
      exact (hparts p hp).mapping v hv
  · rw [valueAt?_cleared]
    split_ifs with hset
    · exact nofun
    · rw [← valueAt?_unset fs hset]
      exact (hparts p hp).rules r hr

/-- A variable that is set is accepted and stated as its rule reads it. -/
theorem exists_stated {α : Type} {fs : Fields} {p : Part} {source name value : String} {initial : α}
    {read : Value → Except Violation α} {state : α → Value}
    (h : (settings (overlay env fs)).violations = []) (hp : p ∈ schema)
    (hr : Rule.of name initial read state ∈ p.rules) (ho : (source, p.name, name) ∈ overrides)
    (hvalue : setValue? env source = some value) : ∃ a, read (.text value) = .ok a ∧
      valueAt? (settings (overlay env fs)).value.fields p.name name = some (state a) := by
  have hplace : valueAt? (overlay env fs) p.name name = some (.text value) :=
    valueAt?_overlay fs ho hvalue
  obtain ⟨b, hb⟩ := (part_accepts h hp).rules _ hr _ hplace
  have hstated := valueAt?_settings hp hr (overlay env fs)
  rw [Rule.of_name, hplace, Rule.of_valueOf] at hstated
  cases hread : read (.text value) with
  | ok a => exact ⟨a, rfl, by rw [hstated, readOr, hread]⟩
  | error e => simp [Rule.of_read, hread, Except.map] at hb

end

/-! ## §5. What the environment does to settings. -/

/-- Settings have the values of the environment: keys and the host as they are, the base without
the slashes at its end, the port as the integer that it spells. -/
structure Carries (env : Environment) (s : Settings) : Prop where
  directoryKey : ∀ v ∈ setValue? env "MAILPOOL_API_KEY", s.directory.apiKey = some v
  directoryBase : ∀ v ∈ setValue? env "MAILPOOL_API_BASE",
    StartsWeb v ∧ s.directory.apiBase = withoutSlashes v
  classifierKey : ∀ v ∈ setValue? env "ANTHROPIC_API_KEY", s.classifier.apiKey = some v
  serverKey : ∀ v ∈ setValue? env "API_KEY", s.server.apiKey = some v
  host : ∀ v ∈ setValue? env "IMAP_HOST", s.imap.defaultHost = v
  port : ∀ v ∈ setValue? env "IMAP_PORT",
    integerText v = .ok s.imap.defaultPort ∧ 1 ≤ s.imap.defaultPort ∧ s.imap.defaultPort ≤ 65535

/-- Settings agree but for the fields that variables take the place of. -/
structure AgreeElsewhere (env : Environment) (s t : Settings) : Prop where
  version : s.schemaVersion = t.schemaVersion
  fields : ∀ section_ name, ¬ Overridden env section_ name →
    valueAt? s.fields section_ name = valueAt? t.fields section_ name

theorem within_eq_ok_iff {least greatest n : Int} {v : Value} :
    within least (some greatest) v = .ok n ↔ integer v = .ok n ∧ least ≤ n ∧ n ≤ greatest := by
  unfold within
  cases hv : integer v with
  | error e => simp [bind, Except.bind]
  | ok m =>
    simp only [bind, Except.bind, pure, Except.pure, throw, throwThe, MonadExceptOf.throw]
    grind

section

variable {env : Environment} {fs : Fields}

/-- **The settings have the values of the environment.** -/
theorem carries_overlay (h : (settings (overlay env fs)).violations = []) :
    Carries env (settings (overlay env fs)).value := by
  have hkey {p : Part} {source value : String} {k : Option String} (hp : p ∈ schema)
      (hr : Rule.of "api_key" none optionalText keyValue ∈ p.rules)
      (ho : (source, p.name, "api_key") ∈ overrides) (hvalue : setValue? env source = some value)
      (hk : valueAt? (settings (overlay env fs)).value.fields p.name "api_key"
        = some (keyValue k)) :
      k = some value := by
    obtain ⟨a, ha, hstated⟩ := exists_stated h hp hr ho hvalue
    obtain rfl := Except.ok.inj ha
    exact keyValue_injective (Option.some.inj (hk.symm.trans hstated))
  have hdirectory : directoryPart ∈ schema := by simp [schema]
  have himap : imapPart ∈ schema := by simp [schema]
  constructor
  case directoryKey =>
    exact fun v hv => hkey hdirectory (by simp [directoryPart]) (by decide) hv rfl
  case classifierKey =>
    exact fun v hv =>
      hkey (p := classifierPart) (by simp [schema]) (by simp [classifierPart]) (by decide) hv rfl
  case serverKey =>
    exact fun v hv =>
      hkey (p := serverPart) (by simp [schema]) (by simp [serverPart]) (by decide) hv rfl
  case directoryBase =>
    intro v hv
    have hrule : baseRule ∈ directoryPart.rules := List.mem_cons_self ..
    obtain ⟨s, hs, hstated⟩ := exists_stated h hdirectory hrule (by decide) hv
    have hbase := Value.text.inj (Option.some.inj ((valueAt?_apiBase _).symm.trans hstated))
    rw [base_text] at hs
    split at hs
    next hweb =>
      obtain rfl := Except.ok.inj hs
      exact ⟨(isWebPlace_iff v).1 hweb, hbase⟩
    next => cases hs
  case host =>
    intro v hv
    have hrule : Rule.of "default_host" ({} : ImapSettings).defaultHost text .text
        ∈ imapPart.rules := List.mem_cons_self ..
    obtain ⟨s, hs, hstated⟩ := exists_stated h himap hrule (by decide) hv
    obtain rfl := Except.ok.inj hs
    exact Value.text.inj (Option.some.inj hstated)
  case port =>
    intro v hv
    have hrule : Rule.of "default_port" ({} : ImapSettings).defaultPort (within 1 (some 65535)) .int
        ∈ imapPart.rules := by simp [imapPart]
    obtain ⟨n, hn, hstated⟩ := exists_stated h himap hrule (by decide) hv
    have hport : (settings (overlay env fs)).value.imap.defaultPort = n :=
      Value.int.inj (Option.some.inj hstated)
    rw [hport]
    exact within_eq_ok_iff.1 hn

theorem agreeElsewhere_of {gs : Fields}
    (hversion : Value.field? "schema_version" gs = Value.field? "schema_version" fs)
    (hplaces : ∀ section_ name, ¬ Overridden env section_ name →
      valueAt? gs section_ name = valueAt? fs section_ name) :
    AgreeElsewhere env (settings gs).value (settings (overlay env fs)).value where
  version := schemaVersion_congr (hversion.trans (field?_untouched fs not_touched_version).symm)
  fields section_ name h :=
    valueAt?_settings_congr ((hplaces section_ name h).trans (valueAt?_unset fs h).symm)

/-! ## §6. The outcome of validation. -/

/-- The violations that validation reports, each with its place. -/
def reported : Except Failure Settings → List (String × Violation)
  | .error (.validation (.fields _ violations)) => violations
  | _ => []

theorem settingsOf_of_textKeys (h : haveTextKeys fs) (source : String) (env : Environment) :
    settingsOf source env fs = (validate source (overlay env fs)).mapError refused :=
  if_pos ((haveTextKeys_overlay fs).trans h)

theorem settingsOf_of_not_textKeys (h : ¬ haveTextKeys fs) (source : String) (env : Environment) :
    settingsOf source env fs = .error .badKey :=
  if_neg ((haveTextKeys_overlay fs).symm ▸ h)

theorem settingsOf_eq_ok_iff {source : String} {s : Settings} : settingsOf source env fs = .ok s
    ↔ haveTextKeys fs ∧ validate source (overlay env fs) = .ok s := by
  by_cases hkeys : haveTextKeys fs
  · rw [settingsOf_of_textKeys hkeys]
    cases validate source (overlay env fs) <;> simp [hkeys, Except.mapError]
  · simp [settingsOf_of_not_textKeys hkeys, hkeys]

theorem reported_settingsOf (source : String) : reported (settingsOf source env fs)
    = if haveTextKeys fs then (settings (overlay env fs)).violations else [] := by
  by_cases hkeys : haveTextKeys fs
  · rw [settingsOf_of_textKeys hkeys, if_pos hkeys]
    cases h : validate source (overlay env fs) with
    | ok s => exact (validate_eq_ok_iff.1 h).1.symm
    | error e =>
      cases e with
      | fields source' vs => exact (validate_eq_fields_iff.1 h).2.1.symm
      | newerSchema n =>
        rw [(validate_eq_newer_iff.1 h).1]
        unfold Except.mapError refused
        dsimp only
        split_ifs <;> rfl
  · rw [settingsOf_of_not_textKeys hkeys, if_neg hkeys]
    rfl

/-- A section that holds a field of the environment is a mapping, so it is not refused itself. -/
theorem notMem_reported_of_touched {section_ : String} (h : Touched env section_) (source : String)
    (e : Violation) : (section_, e) ∉ reported (settingsOf source env fs) := by
  have hversion : ∀ o ∈ overrides, o.2.1 ≠ "schema_version" := by decide
  have hpaths : ∀ o ∈ overrides, ∀ p ∈ schema, ∀ r ∈ p.rules, o.2.1 ≠ p.path r := by decide
  obtain ⟨inner, hinner⟩ := field?_touched fs h
  obtain ⟨o, ho, rfl, -⟩ := h
  rw [reported_settingsOf]
  split_ifs
  · intro hmem
    rw [violations_settings, List.mem_append, List.mem_flatMap] at hmem
    rcases hmem with hmem | ⟨p, hp, hmem⟩
    · exact hversion o ho (fst_of_mem_faultsAt hmem)
    · rcases Part.mem_faultsOf_iff.1 hmem with ⟨heq, x, hx, hother⟩ | ⟨r, hr, hmem⟩
      · rw [← (Prod.mk.inj heq).1, hinner] at hx
        exact hother inner (Option.some.inj hx).symm
      · exact hpaths o ho p hp r hr (fst_of_mem_faultsAt hmem)
  · exact List.not_mem_nil

theorem haveTextKeys_cleared : haveTextKeys (cleared env fs) = haveTextKeys fs := by
  unfold haveTextKeys cleared
  rw [List.all_map]
  rfl

/-- A version that is too new stays too new, where nothing is wrong with the environment. -/
theorem validate_overlay_of_newer {source : String} {n : Int}
    (h : validate source fs = .error (.newerSchema n))
    (hnone : (settings (overlay env fs)).violations = []) :
    validate source (overlay env fs) = .error (.newerSchema n) := by
  obtain ⟨-, hn, hnewer⟩ := validate_eq_newer_iff.1 h
  refine validate_eq_newer_iff.2 ⟨hnone, ?_, hnewer⟩
  rw [← hn]
  exact schemaVersion_congr (field?_untouched fs not_touched_version)

/-- What is refused without a place, for its keys or its version, stays refused. -/
theorem refused_overlay {source : String} {e : Failure} (h : settingsOf source [] fs = .error e)
    (hplaceless : reported (.error e) = []) :
    settingsOf source env fs = .error e ∨ reported (settingsOf source env fs) ≠ [] := by
  by_cases hkeys : haveTextKeys fs
  · rw [settingsOf_of_textKeys hkeys, overlay_nil] at h
    by_cases hnone : (settings (overlay env fs)).violations = []
    · left
      rw [settingsOf_of_textKeys hkeys]
      cases hvalid : validate source fs with
      | ok s => simp [hvalid, Except.mapError] at h
      | error cause =>
        rw [hvalid] at h
        obtain rfl := Except.error.inj h
        -- Violations have places, so the version is what is left.
        cases cause with
        | fields source' vs => exact absurd hplaceless (validate_eq_fields_iff.1 hvalid).2.2
        | newerSchema n => rw [validate_overlay_of_newer hvalid hnone, Except.mapError]
    · right
      rwa [reported_settingsOf, if_pos hkeys]
  · rw [settingsOf_of_not_textKeys hkeys] at h ⊢
    exact .inl h

/-- **The environment decides its own fields, and nothing else but that the sections that hold
them are mappings.**  Settings that are accepted have its values.  Elsewhere they say what the
fields alone say, if these are accepted, and what the fields say without those that variables
take the place of, which are accepted.  Violations are the same with the environment and without
it, but for its fields and for the sections that hold them, which are not refused themselves.
Fields that are refused without a place stay refused in this way, unless a value of the
environment is refused. -/
theorem overlay_frame (source : String) (env : Environment) (fs : Fields) :
    (∀ s, settingsOf source env fs = .ok s → Carries env s ∧
      (∀ t, settingsOf source [] fs = .ok t → AgreeElsewhere env t s) ∧
      ∃ t, settingsOf source [] (cleared env fs) = .ok t ∧ AgreeElsewhere env t s) ∧
    (∀ v, ¬ Decided env v.1 →
      (v ∈ reported (settingsOf source [] fs) ↔ v ∈ reported (settingsOf source env fs))) ∧
    (∀ section_, Touched env section_ → ∀ e, (section_, e) ∉ reported (settingsOf source env fs)) ∧
    ∀ e, settingsOf source [] fs = .error e → reported (.error e) = [] →
      settingsOf source env fs = .error e ∨ reported (settingsOf source env fs) ≠ [] := by
  refine ⟨fun s hs => ?_, fun v hv => ?_, fun section_ h => notMem_reported_of_touched h source,
    fun e he hplaceless => ?_⟩
  · obtain ⟨hkeys, hvalid⟩ := settingsOf_eq_ok_iff.1 hs
    obtain ⟨hnone, rfl, hversion⟩ := validate_eq_ok_iff.1 hvalid
    have hcleared : AgreeElsewhere env (settings (cleared env fs)).value
        (settings (overlay env fs)).value := by
      refine agreeElsewhere_of (field?_cleared_of_not_touched fs not_touched_version)
        fun section_ name h => ?_
      rw [valueAt?_cleared, if_neg h]
    refine ⟨carries_overlay hnone, fun t ht => ?_, _, settingsOf_eq_ok_iff.2 ⟨?_, ?_⟩, hcleared⟩
    · obtain ⟨-, rfl, -⟩ := validate_eq_ok_iff.1 (settingsOf_eq_ok_iff.1 ht).2
      exact agreeElsewhere_of rfl fun _ _ _ => rfl
    · rwa [haveTextKeys_cleared]
    · rw [overlay_nil, validate_eq_ok_iff, hcleared.version]
      exact ⟨violations_cleared hnone, rfl, hversion⟩
  · rw [reported_settingsOf, reported_settingsOf, overlay_nil]
    split_ifs
    · exact (mem_violations_overlay fs hv).symm
    · rfl
  · exact refused_overlay he hplaceless

end

/-- Three variables that are set, and one that is empty. -/
def sampleEnvironment : Environment :=
  [("MAILPOOL_API_BASE", "https://mailpool.test/"), ("MAILPOOL_API_KEY", "mp-env"),
   ("IMAP_PORT", "1993"), ("API_KEY", "")]

/-- A file with a base that is not one and limits that are stated. -/
def sampleFile (inboxLimit : Value) : Fields :=
  [(.text "directory", .mapping
     [(.text "api_base", .text "ftp://a.test"), (.text "page_limit", .int 25)]),
   (.text "imap", .null), (.text "scan", .mapping [(.text "inbox_limit", inboxLimit)])]

/-- The settings of that file with the environment. -/
def sampleSettings : Settings where
  directory := { apiBase := "https://mailpool.test", apiKey := some "mp-env", pageLimit := 25 }
  imap := { defaultPort := 1993 }
  scan := { inboxLimit := 5 }

theorem overlay_frame_sample :
    settingsOf "config.yaml" sampleEnvironment (sampleFile (.int 5)) = .ok sampleSettings ∧
      Carries sampleEnvironment sampleSettings ∧
      ("scan.inbox_limit", .notInteger)
        ∈ reported (settingsOf "config.yaml" sampleEnvironment (sampleFile (.text "lots"))) := by
  have h : settingsOf "config.yaml" sampleEnvironment (sampleFile (.int 5))
      = .ok sampleSettings := by decide +kernel
  refine ⟨h, ((overlay_frame _ _ _).1 _ h).1, ((overlay_frame _ _ _).2.1 (_, _) ?_).1 ?_⟩
  · decide +kernel
  · decide +kernel

/-- A directory that is no mapping is refused, but not where a variable takes the place of a field
in it. -/
theorem directory_gives_way :
    haveTextKeys [(.text "directory", .int 5)] ∧
      settingsOf "config.yaml" [] [(.text "directory", .int 5)]
        = .error (.validation (.fields "config.yaml"
            [("directory", .notSection "DirectoryConfig")])) ∧
      (∀ o ∈ overrides, "directory" ≠ o.2.1 ++ "." ++ o.2.2) ∧
      settingsOf "config.yaml" [("MAILPOOL_API_KEY", "k")] [(.text "directory", .int 5)]
        = .ok { directory := { apiKey := some "k" } } := by
  decide +kernel

end Mailroom.Config
