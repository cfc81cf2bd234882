import Mailroom.Proofs.Config.Schema
import Mailroom.Proofs.Text.Prefix
/-!
  Mailroom.Proofs.Config.Restated
  ────────────────────────────────
  **WHAT WAS ACCEPTED IS ACCEPTED AGAIN, BUT FOR A BASE WITHOUT A HOST.**

  A rule is stable if it leaves alone what it made of a value, and its default.  All rules are,
  except that of the base of the directory: it looks for a scheme in front of two slashes, and
  takes slashes from the end only then.  Where nothing but slashes follows the scheme, they go
  with the rest.

      stable_of_mem       — the rules that are stable
      restated_violations — what is wrong with accepted settings that are read again
      restated_value      — what they then stand for
      restated_iff        — which settings are read again as they are
-/
namespace Mailroom.Config

open Mailroom.Text Mailroom.Yaml

/-! ## §1. Stable rules. -/

/-- A rule that leaves alone what it has made of a value, and its default. -/
def Rule.Stable (r : Rule) : Prop :=
  ∀ v, r.Accepts v → r.read (r.valueOf v) = .ok (r.valueOf v)

theorem Rule.Stable.valueOf_valueOf {r : Rule} {v : Option Value} (h : r.Stable)
    (hv : r.Accepts v) : r.valueOf (some (r.valueOf v)) = r.valueOf v :=
  Rule.valueOf_some (h v hv)

theorem Rule.Stable.accepts {r : Rule} {v : Option Value} (h : r.Stable) (hv : r.Accepts v) :
    r.Accepts (some (r.valueOf v)) := by
  intro x hx
  obtain rfl := Option.some.inj hx
  exact ⟨_, h v hv⟩

/-- What a rule makes of a value that it accepts: the default, or what it reads. -/
theorem Rule.valueOf_of_accepts {α : Type} {name : String} {initial : α}
    {read : Value → Except Violation α} {state : α → Value} {v : Option Value}
    (h : (Rule.of name initial read state).Accepts v) :
    (Rule.of name initial read state).valueOf v = state initial ∨
      ∃ x a, read x = .ok a ∧ (Rule.of name initial read state).valueOf v = state a := by
  rw [of_valueOf]
  cases v with
  | none => exact .inl rfl
  | some x =>
    obtain ⟨b, hb⟩ := h x rfl
    cases hread : read x with
    | ok a => exact .inr ⟨x, a, hread, by simp [readOr, hread]⟩
    | error e => simp [Rule.of, hread, Except.map] at hb

theorem Rule.stable_of {α : Type} (name : String) {initial : α} {read : Value → Except Violation α}
    {state : α → Value} (hinitial : read (state initial) = .ok initial)
    (hread : ∀ v a, read v = .ok a → read (state a) = .ok a) :
    (Rule.of name initial read state).Stable := by
  intro v hv
  rcases valueOf_of_accepts hv with hvalue | ⟨x, a, hx, hvalue⟩
  · rw [hvalue, of_read, hinitial]
    rfl
  · rw [hvalue, of_read, hread x a hx]
    rfl

theorem stable_text (name initial : String) : (Rule.of name initial text .text).Stable :=
  Rule.stable_of name rfl fun _ _ _ => rfl

theorem stable_key (name : String) (initial : Option String) :
    (Rule.of name initial optionalText keyValue).Stable := by
  have hkey : ∀ k, optionalText (keyValue k) = .ok k := fun k => by cases k <;> rfl
  exact Rule.stable_of name (hkey initial) fun _ a _ => hkey a

theorem stable_logLevel (name : String) (initial : LogLevel) :
    (Rule.of name initial logLevel fun l => .text l.name).Stable := by
  have hlevel : ∀ l : LogLevel, logLevel (.text l.name) = .ok l := fun l => by cases l <;> rfl
  exact Rule.stable_of name (hlevel initial) fun _ a _ => hlevel a

theorem integer_of_within {least : Int} {greatest : Option Int} {v : Value} {n : Int}
    (h : within least greatest v = .ok n) : integer v = .ok n := by
  unfold within at h
  cases hv : integer v with
  | error e =>
    rw [hv] at h
    cases h
  | ok m =>
    simp only [hv, bind, Except.bind, pure, Except.pure, throw, throwThe, MonadExceptOf.throw] at h
    grind

/-- Bounds are put to the integer alone, however it is written. -/
theorem within_congr {least : Int} {greatest : Option Int} {v w : Value}
    (h : integer v = integer w) : within least greatest v = within least greatest w := by
  unfold within
  rw [h]

theorem stable_within (name : String) {initial least : Int} {greatest : Option Int}
    (hinitial : within least greatest (.int initial) = .ok initial) :
    (Rule.of name initial (within least greatest) .int).Stable := by
  refine Rule.stable_of name hinitial fun v n hn => ?_
  have hinteger : integer (.int n) = integer v := (integer_of_within hn).symm
  rw [within_congr hinteger, hn]

theorem decimal_of_positive {v : Value} {x : Number.Binary64} (h : positive v = .ok x) :
    decimal v = .ok x := by
  unfold positive at h
  cases hv : decimal v with
  | error e =>
    rw [hv] at h
    cases h
  | ok y =>
    simp only [hv, bind, Except.bind, pure, Except.pure, throw, throwThe, MonadExceptOf.throw] at h
    grind

theorem stable_positive (name : String) {initial : Number.Binary64}
    (hinitial : positive (.float initial) = .ok initial) :
    (Rule.of name initial positive .float).Stable := by
  refine Rule.stable_of name hinitial fun v x hx => ?_
  have hdecimal : decimal (.float x) = decimal v := (decimal_of_positive hx).symm
  have hcongr : positive (.float x) = positive v := by
    unfold positive
    rw [hdecimal]
  rw [hcongr, hx]

/-- The default of the time limits is above zero. -/
theorem positive_thirty : positive (.float (.ofInt 30)) = .ok (.ofInt 30) := by
  have hpositive : ((Number.Binary64.ofInt 30).isZero
      || (Number.Binary64.ofInt 30).lt (.zero false)) = false := by decide +kernel
  unfold positive decimal
  simp only [bind, Except.bind, hpositive]
  rfl

/-- The rule of the base of the directory. -/
def baseRule : Rule := .of "api_base" ({} : DirectorySettings).apiBase base .text

theorem stable_version : versionRule.Stable := stable_within _ rfl

theorem directoryPart_rules : directoryPart.rules = baseRule :: directoryPart.rules.tail := rfl

/-- The other rules of the directory are stable. -/
theorem stable_directory : ∀ r ∈ directoryPart.rules.tail, r.Stable := by
  simp only [directoryPart, List.tail_cons, List.forall_mem_cons, List.not_mem_nil,
    IsEmpty.forall_iff, implies_true, and_true]
  exact ⟨stable_key _ _, stable_within _ rfl, stable_positive _ positive_thirty⟩

/-- **All rules of the other sections are stable**; their defaults pass their own checks. -/
theorem stable_of_mem {p : Part} (hp : p ∈ schema.tail) : ∀ r ∈ p.rules, r.Stable := by
  revert p
  simp only [schema, List.tail_cons, List.forall_mem_cons, List.not_mem_nil, IsEmpty.forall_iff,
    implies_true, and_true, imapPart, classifierPart, scanPart, mailPart, serverPart]
  exact ⟨⟨stable_text _ _, stable_within _ rfl, stable_positive _ positive_thirty⟩,
    ⟨stable_key _ _, stable_text _ _, stable_within _ rfl, stable_within _ rfl⟩,
    ⟨stable_within _ rfl, stable_within _ rfl, stable_within _ rfl⟩,
    ⟨stable_within _ rfl, stable_within _ rfl⟩,
    stable_key _ _, stable_text _ _, stable_within _ rfl, stable_logLevel _ _⟩

/-! ## §2. The base of the directory. -/

/-- A text starts like the place of a web service. -/
def StartsWeb (s : String) : Prop :=
  "http://".toList <+: s.toList ∨ "https://".toList <+: s.toList

instance (s : String) : Decidable (StartsWeb s) := inferInstanceAs (Decidable (_ ∨ _))

theorem isWebPlace_iff (s : String) : isWebPlace s = true ↔ StartsWeb s := by
  rw [isWebPlace, Bool.or_eq_true, isSome_dropPrefix?_iff, isSome_dropPrefix?_iff]
  rfl

theorem toList_withoutSlashes (s : String) :
    (withoutSlashes s).toList = dropEndWhile (· == '/') s.toList := String.toList_ofList

theorem getLast?_withoutSlashes (s : String) : (withoutSlashes s).toList.getLast? ≠ some '/' := by
  intro hlast
  rw [toList_withoutSlashes] at hlast
  have hslash := dropEndWhile_last (· == '/') s.toList '/' hlast
  cases hslash

theorem withoutSlashes_withoutSlashes (s : String) :
    withoutSlashes (withoutSlashes s) = withoutSlashes s := by
  have hlast : ∀ c ∈ (withoutSlashes s).toList.getLast?, ¬ (c == '/') = true := by
    rintro c hc hslash
    rw [eq_of_beq hslash] at hc
    exact getLast?_withoutSlashes s hc
  have hsame : dropEndWhile (· == '/') (withoutSlashes s).toList = (withoutSlashes s).toList :=
    List.rdropWhile_eq_self_iff.2 fun hne =>
      hlast _ (List.getLast?_eq_getLast_of_ne_nil hne)
  conv_lhs => rw [withoutSlashes, hsame]
  exact String.ofList_toList

/-- **A base without its slashes still starts like one**, unless only its scheme is left. -/
theorem startsWeb_withoutSlashes {s : String} (h : StartsWeb s) :
    StartsWeb (withoutSlashes s) ↔ withoutSlashes s ≠ "http:" ∧ withoutSlashes s ≠ "https:" := by
  have hslashes : ∀ c ∈ ['/', '/'], (c == '/') = true := by simp
  constructor
  · rintro hweb
    constructor
    · intro heq
      rw [heq] at hweb
      exact absurd hweb (by decide)
    · intro heq
      rw [heq] at hweb
      exact absurd hweb (by decide)
  · rintro ⟨hhttp, hhttps⟩
    rw [Ne, ← String.toList_inj, toList_withoutSlashes] at hhttp hhttps
    unfold StartsWeb
    rw [toList_withoutSlashes]
    rcases h with h | h
    · left
      have hword : ∀ c ∈ "http:".toList.getLast?, (c == '/') = false := by simp
      exact (prefix_dropEndWhile hword hslashes h).resolve_right hhttp
    · right
      have hword : ∀ c ∈ "https:".toList.getLast?, (c == '/') = false := by simp
      exact (prefix_dropEndWhile hword hslashes h).resolve_right hhttps

theorem text_base {v : Value} {s : String} (h : base v = .ok s) :
    ∃ t, StartsWeb t ∧ s = withoutSlashes t := by
  unfold base at h
  cases hv : text v with
  | error e =>
    rw [hv] at h
    cases h
  | ok t =>
    simp only [hv, bind, Except.bind] at h
    split at h
    next hweb => exact ⟨t, (isWebPlace_iff t).1 hweb, (Except.ok.inj h).symm⟩
    next => cases h

/-- What the directory has for a base once a value was accepted. -/
theorem valueOf_baseRule {v : Option Value} (h : baseRule.Accepts v) :
    ∃ t, StartsWeb t ∧ baseRule.valueOf v = .text (withoutSlashes t) := by
  rcases Rule.valueOf_of_accepts h with hvalue | ⟨x, s, hx, hvalue⟩
  · exact ⟨({} : DirectorySettings).apiBase, by decide, hvalue⟩
  · obtain ⟨t, hweb, rfl⟩ := text_base hx
    exact ⟨t, hweb, hvalue⟩

theorem base_text (s : String) :
    base (.text s) = if isWebPlace s then .ok (withoutSlashes s) else .error .badBase := by
  unfold base text
  simp only [bind, Except.bind]
  split <;> rfl

/-- A base without slashes at its end is read as it is, or refused. -/
theorem read_baseRule (t : String) : baseRule.read (.text (withoutSlashes t))
    = if StartsWeb (withoutSlashes t) then .ok (.text (withoutSlashes t)) else .error .badBase := by
  rw [baseRule, Rule.of_read, base_text, withoutSlashes_withoutSlashes]
  simp only [isWebPlace_iff]
  split <;> rfl

/-! ## §3. Accepted settings. -/

/-- What is wrong with a section that is stated again: what is wrong with its fields. -/
theorem faultsOf_restated {p : Part} (hp : p ∈ schema) (fs : Fields) :
    p.faultsOf (settings fs).value.fields = p.rules.flatMap fun r =>
      r.faultsOf (p.path r) (some (r.valueOf (valueAt? fs p.name r.name))) := by
  have hmapping : p.faultsOf (settings fs).value.fields = p.rules.flatMap fun r =>
      r.faultsOf (p.path r) (valueAt? (settings fs).value.fields p.name r.name) := by
    unfold Part.faultsOf
    rw [field?_part hp]
    rfl
  rw [hmapping]
  refine List.flatMap_congr fun r hr => ?_
  rw [valueAt?_settings hp hr]

theorem valueAt?_apiBase (s : Settings) :
    valueAt? s.fields "directory" "api_base" = some (.text s.directory.apiBase) := rfl

section

variable {fs : Fields} (h : (settings fs).violations = [])

include h

theorem part_accepts {p : Part} (hp : p ∈ schema) : p.Accepts fs := ((accepted_iff fs).1 h).2 p hp

/-- A base that was accepted is one without slashes at its end. -/
theorem exists_apiBase : ∃ t, StartsWeb t ∧
    (settings fs).value.directory.apiBase = withoutSlashes t ∧
    baseRule.valueOf (valueAt? fs "directory" "api_base") = .text (withoutSlashes t) := by
  have hdirectory : directoryPart ∈ schema := List.mem_cons_self ..
  have hbase : baseRule ∈ directoryPart.rules := List.mem_cons_self ..
  obtain ⟨t, hweb, hvalue⟩ := valueOf_baseRule ((part_accepts h hdirectory).rules _ hbase)
  have hat := valueAt?_settings hdirectory hbase fs
  rw [hvalue] at hat
  have hstated := (valueAt?_apiBase _).symm.trans hat
  exact ⟨t, hweb, Value.text.inj (Option.some.inj hstated), hvalue⟩

/-- Stable rules have nothing against what they made of accepted values. -/
theorem faultsOf_stable {p : Part} {rules : List Rule} (hp : p ∈ schema) (hsub : rules ⊆ p.rules)
    (hstable : ∀ r ∈ rules, r.Stable) :
    (rules.flatMap fun r => r.faultsOf (p.path r) (some (r.valueOf (valueAt? fs p.name r.name))))
      = [] := by
  refine List.flatMap_eq_nil_iff.2 fun r hr => (r.faultsOf_eq_nil_iff _).2 ?_
  exact (hstable r hr).accepts ((part_accepts h hp).rules r (hsub hr))

/-- **Nothing is wrong with accepted settings that are read again** but for their base, where it
no longer starts like one. -/
theorem restated_violations : (settings (settings fs).value.fields).violations
    = if StartsWeb (settings fs).value.directory.apiBase then []
      else [("directory.api_base", .badBase)] := by
  obtain ⟨t, -, hbase, hvalue⟩ := exists_apiBase h
  have hversion : versionRule.faultsOf "schema_version"
      (Value.field? "schema_version" (settings fs).value.fields) = [] := by
    rw [field?_version, versionRule.faultsOf_eq_nil_iff]
    exact stable_version.accepts ((accepted_iff fs).1 h).1
  have hothers : (schema.tail.flatMap fun p => p.faultsOf (settings fs).value.fields) = [] := by
    refine List.flatMap_eq_nil_iff.2 fun p hp => ?_
    have hp' : p ∈ schema := List.mem_cons_of_mem _ hp
    rw [faultsOf_restated hp']
    exact faultsOf_stable h hp' (List.Subset.refl _) (stable_of_mem hp)
  have hdirectory : directoryPart ∈ schema := List.mem_cons_self ..
  have htail := faultsOf_stable h hdirectory (List.tail_subset _) stable_directory
  have hschema : schema = directoryPart :: schema.tail := rfl
  rw [violations_settings, hversion, List.nil_append, hschema, List.flatMap_cons, hothers,
    List.append_nil, faultsOf_restated hdirectory, directoryPart_rules, List.flatMap_cons, htail,
    List.append_nil]
  show baseRule.faultsOf "directory.api_base"
    (some (baseRule.valueOf (valueAt? fs "directory" "api_base"))) = _
  rw [hvalue, hbase, Rule.faultsOf, faultsAt, read_baseRule]
  by_cases hweb : StartsWeb (withoutSlashes t)
  · rw [if_pos hweb, if_pos hweb]
  · rw [if_neg hweb, if_neg hweb]

/-- A field that is stated and read again says the same, also the base where it still starts
like one. -/
theorem valueOf_restated (hweb : StartsWeb (settings fs).value.directory.apiBase) {p : Part}
    {r : Rule} (hp : p ∈ schema) (hr : r ∈ p.rules) :
    r.valueOf (some (r.valueOf (valueAt? fs p.name r.name)))
      = r.valueOf (valueAt? fs p.name r.name) := by
  have haccepts := (part_accepts h hp).rules r hr
  rcases List.mem_cons.1 hp with rfl | hp
  · rcases List.mem_cons.1 hr with rfl | hr
    · obtain ⟨t, -, hbase, hvalue⟩ := exists_apiBase h
      rw [hbase] at hweb
      refine Rule.valueOf_some ?_
      show baseRule.read (baseRule.valueOf (valueAt? fs "directory" "api_base"))
        = .ok (baseRule.valueOf (valueAt? fs "directory" "api_base"))
      rw [hvalue, read_baseRule, if_pos hweb]
    · exact (stable_directory r hr).valueOf_valueOf haccepts
  · exact (stable_of_mem hp r hr).valueOf_valueOf haccepts

/-- **Accepted settings that are read again stand for themselves.** -/
theorem restated_value (hweb : StartsWeb (settings fs).value.directory.apiBase) :
    (settings (settings fs).value.fields).value = (settings fs).value := by
  have hpart : ∀ p ∈ schema, p.valueOf (settings fs).value.fields = p.valueOf fs := by
    intro p hp
    unfold Part.valueOf
    refine congrArg Value.mapping (List.map_congr_left fun r hr => ?_)
    rw [valueAt?_settings hp hr, valueOf_restated h hweb hp hr]
  refine Settings.fields_injective ?_
  calc (settings (settings fs).value.fields).value.fields
      = (.text "schema_version", versionRule.valueOf (Value.field? "schema_version" fs))
        :: schema.map fun p => (.text p.name, p.valueOf (settings fs).value.fields) := by
        rw [fields_settings, field?_version,
          stable_version.valueOf_valueOf ((accepted_iff fs).1 h).1]
    _ = (.text "schema_version", versionRule.valueOf (Value.field? "schema_version" fs))
        :: schema.map fun p => (.text p.name, p.valueOf fs) := by
        refine congrArg _ (List.map_congr_left fun p hp => ?_)
        rw [hpart p hp]
    _ = (settings fs).value.fields := (fields_settings fs).symm

end

/-- **Settings that validation has accepted are accepted again and stay as they are** exactly if
more is left of their base than its scheme; otherwise that base is refused.  Exactly then the
base still starts like one; it never ends in a slash. -/
theorem restated_iff {source : String} {fs : Fields} {s : Settings}
    (h : validate source fs = .ok s) (source' : String) :
    (validate source' s.fields = .ok s
      ↔ s.directory.apiBase ≠ "http:" ∧ s.directory.apiBase ≠ "https:") ∧
    (StartsWeb s.directory.apiBase
      ↔ s.directory.apiBase ≠ "http:" ∧ s.directory.apiBase ≠ "https:") ∧
    s.directory.apiBase.toList.getLast? ≠ some '/' ∧
    (s.directory.apiBase = "http:" ∨ s.directory.apiBase = "https:" →
      validate source' s.fields = .error (.fields source' [("directory.api_base", .badBase)])) := by
  obtain ⟨hnone, rfl, hversion⟩ := validate_eq_ok_iff.1 h
  have hviolations := restated_violations hnone
  have hvalue := restated_value hnone
  obtain ⟨t, hweb, hbase, -⟩ := exists_apiBase hnone
  have hstarts := startsWeb_withoutSlashes hweb
  rw [← hbase] at hstarts
  have haccepted : validate source' (settings fs).value.fields = .ok (settings fs).value
      ↔ StartsWeb (settings fs).value.directory.apiBase := by
    rw [validate_eq_ok_iff, hviolations]
    refine ⟨fun hagain => ?_, fun hstill => ⟨if_pos hstill, hvalue hstill, hversion⟩⟩
    by_contra hlost
    rw [if_neg hlost] at hagain
    cases hagain.1
  refine ⟨haccepted.trans hstarts, hstarts, ?_, fun hscheme => ?_⟩
  · rw [hbase]
    exact getLast?_withoutSlashes t
  · have hlost : ¬ StartsWeb (settings fs).value.directory.apiBase :=
      fun hstill => hscheme.elim (hstarts.1 hstill).1 (hstarts.1 hstill).2
    rw [validate_eq_fields_iff, hviolations, if_neg hlost]
    exact ⟨rfl, rfl, List.cons_ne_nil _ _⟩

/-- A file that writes most of its values in another way than they are stated. -/
def looseFields : Fields :=
  [(.text "schema_version", .bool true),
   (.text "directory", .mapping
     [(.text "api_base", .text "https://mailpool.test/v1//"), (.text "page_limit", .text " 2_5 "),
      (.text "timeout_seconds", .text "1e1"), (.text "api_key", .null)]),
   (.text "imap", .mapping [(.text "default_host", .octets [104, 111]),
     (.text "default_port", .float (.ofInt 143))]),
   (.text "server", .mapping [(.text "log_level", .text "ERROR"), (.text "unknown", .list [])])]

/-- The settings of that file. -/
def looseSettings : Settings where
  directory := { apiBase := "https://mailpool.test/v1", pageLimit := 25, timeout := .ofInt 10 }
  imap := { defaultHost := "ho", defaultPort := 143 }
  server := { logLevel := .error }

theorem restated_loose : validate "config.yaml" looseFields = .ok looseSettings ∧
    validate "dump" looseSettings.fields = .ok looseSettings := by
  have h : validate "config.yaml" looseFields = .ok looseSettings := by decide +kernel
  exact ⟨h, (restated_iff h "dump").1.2 (by decide)⟩

/-- A base of a scheme and slashes loses the slashes that made it one. -/
theorem scheme_alone_refused :
    validate "config.yaml" [(.text "directory", .mapping [(.text "api_base", .text "http://")])]
        = .ok { directory := { apiBase := "http:" } } ∧
      ¬ StartsWeb "http:" ∧
      validate "config.yaml" ({ directory := { apiBase := "http:" } } : Settings).fields
        = .error (.fields "config.yaml" [("directory.api_base", .badBase)]) := by
  decide +kernel

end Mailroom.Config
