import Mathlib.Data.List.Induction
import Mailroom.Config.Check
/-!
  Mailroom.Proofs.Config.Schema
  ────────────────────────────────
  **THE SCHEMA AS A TABLE.**

  Settings can be stated as a mapping, as they are in a file.  In these terms every field is
  checked in the same way: a rule names it, gives its default and reads a value into the value
  that states it.  What the settings say of a field, and what is wrong with it, hangs on the
  value at its place alone.

      Settings.fields     — settings as a mapping
      schema              — the rules of all sections
      fields_settings     — the settings that some fields stand for, by the table
      violations_settings — their violations, by the table
      accepted_iff        — when there are none
      validate_eq_ok_iff  — what validation says, by the two
-/
namespace Mailroom.Config

open Mailroom.Yaml

/-! ## §1. Settings as a mapping. -/

/-- A key that may be missing. -/
def keyValue : Option String → Value
  | some key => .text key
  | none => .null

/-- The settings of the directory as a mapping. -/
def DirectorySettings.fields (s : DirectorySettings) : Fields :=
  [(.text "api_base", .text s.apiBase), (.text "api_key", keyValue s.apiKey),
   (.text "page_limit", .int s.pageLimit), (.text "timeout_seconds", .float s.timeout)]

/-- The settings of IMAP as a mapping. -/
def ImapSettings.fields (s : ImapSettings) : Fields :=
  [(.text "default_host", .text s.defaultHost), (.text "default_port", .int s.defaultPort),
   (.text "timeout_seconds", .float s.timeout)]

/-- The settings of the classifier as a mapping. -/
def ClassifierSettings.fields (s : ClassifierSettings) : Fields :=
  [(.text "api_key", keyValue s.apiKey), (.text "model", .text s.model),
   (.text "max_tokens", .int s.maxTokens), (.text "max_retries", .int s.maxRetries)]

/-- The settings of scans as a mapping. -/
def ScanSettings.fields (s : ScanSettings) : Fields :=
  [(.text "inbox_limit", .int s.inboxLimit), (.text "sent_limit", .int s.sentLimit),
   (.text "interval_minutes", .int s.intervalMinutes)]

/-- The settings of listings as a mapping. -/
def MailSettings.fields (s : MailSettings) : Fields :=
  [(.text "preview_length", .int s.previewLength),
   (.text "default_list_limit", .int s.defaultListLimit)]

/-- The settings of the server as a mapping. -/
def ServerSettings.fields (s : ServerSettings) : Fields :=
  [(.text "api_key", keyValue s.apiKey), (.text "host", .text s.host), (.text "port", .int s.port),
   (.text "log_level", .text s.logLevel.name)]

/-- Settings as a mapping. -/
def Settings.fields (s : Settings) : Fields :=
  [(.text "schema_version", .int s.schemaVersion),
   (.text "directory", .mapping s.directory.fields), (.text "imap", .mapping s.imap.fields),
   (.text "classifier", .mapping s.classifier.fields), (.text "scan", .mapping s.scan.fields),
   (.text "mail", .mapping s.mail.fields), (.text "server", .mapping s.server.fields)]

theorem keyValue_injective : Function.Injective keyValue := by
  intro k l h
  cases k <;> cases l <;> simp_all [keyValue]

theorem LogLevel.name_injective : Function.Injective LogLevel.name := by
  intro l m h
  cases l <;> cases m <;> first | rfl | exact absurd h (by decide)

/-- Settings that are stated alike are the same. -/
theorem Settings.fields_injective : Function.Injective Settings.fields := by
  rintro ⟨_, ⟨⟩, ⟨⟩, ⟨⟩, ⟨⟩, ⟨⟩, ⟨⟩⟩ ⟨_, ⟨⟩, ⟨⟩, ⟨⟩, ⟨⟩, ⟨⟩, ⟨⟩⟩ h
  simp only [Settings.fields, DirectorySettings.fields, ImapSettings.fields,
    ClassifierSettings.fields, ScanSettings.fields, MailSettings.fields, ServerSettings.fields,
    List.cons.injEq, Prod.mk.injEq, Value.mapping.injEq, Value.text.injEq, Value.int.injEq,
    Value.float.injEq, keyValue_injective.eq_iff, LogLevel.name_injective.eq_iff, true_and,
    and_true] at h
  simp only [Settings.mk.injEq, DirectorySettings.mk.injEq, ImapSettings.mk.injEq,
    ClassifierSettings.mk.injEq, ScanSettings.mk.injEq, MailSettings.mk.injEq,
    ServerSettings.mk.injEq]
  exact h

/-! ## §2. Places. -/

/-- The value at a field of a section, if there is one. -/
def valueAt? (fs : Fields) (section_ name : String) : Option Value :=
  match Value.field? section_ fs with
  | some (.mapping inner) => Value.field? name inner
  | _ => none

theorem field?_concat (fs : Fields) (key name : String) (v : Value) :
    Value.field? key (fs ++ [(.text name, v)])
      = if name = key then some v else Value.field? key fs := by
  by_cases h : name = key <;> simp [Value.field?, Value.isText, h]

theorem field?_cons (fs : Fields) (key name : String) (v : Value) :
    Value.field? key ((.text name, v) :: fs)
      = (Value.field? key fs).or (if name = key then some v else none) := by
  unfold Value.field?
  rw [List.reverse_cons, List.find?_append, Option.map_or]
  by_cases h : name = key <;> simp [Value.isText, h]

/-- Among fields with different names each has its value. -/
theorem field?_map {α : Type} (name : α → String) (value : α → Value) {xs : List α} {x : α}
    (hnames : (xs.map name).Nodup) (hx : x ∈ xs) :
    Value.field? (name x) (xs.map fun y => (.text (name y), value y)) = some (value x) := by
  induction xs using List.reverseRecOn with
  | nil => cases hx
  | append_singleton xs y ih =>
    rw [List.map_append, List.nodup_append] at hnames
    rw [List.map_append, List.map_singleton, field?_concat]
    rcases List.mem_append.1 hx with hx | hx
    · have hne : name y ≠ name x := fun heq =>
        hnames.2.2 (name x) (List.mem_map_of_mem hx) (name y) (by simp) heq.symm
      rw [if_neg hne]
      exact ih hnames.1 hx
    · obtain rfl := List.mem_singleton.1 hx
      rw [if_pos rfl]

theorem field?_map_of_notMem {α : Type} (name : α → String) (value : α → Value) {xs : List α}
    {key : String} (hkey : key ∉ xs.map name) :
    Value.field? key (xs.map fun y => (.text (name y), value y)) = none := by
  induction xs using List.reverseRecOn with
  | nil => rfl
  | append_singleton xs y ih =>
    rw [List.map_append, List.mem_append, not_or] at hkey
    have hne : name y ≠ key := by
      rintro rfl
      simp at hkey
    rw [List.map_append, List.map_singleton, field?_concat, if_neg hne]
    exact ih hkey.1

/-! ## §3. Rules. -/

section

variable {α β : Type}

/-- What is read from the value at a place; the default where there is none. -/
def readOr (read : Value → Except Violation α) (initial : α) : Option Value → α
  | none => initial
  | some v =>
    match read v with
    | .ok a => a
    | .error _ => initial

/-- What is wrong with the value at a place. -/
def faultsAt (path : String) (read : Value → Except Violation α) :
    Option Value → List (String × Violation)
  | none => []
  | some v =>
    match read v with
    | .ok _ => []
    | .error e => [(path, e)]

theorem readOr_map (read : Value → Except Violation α) (initial : α) (state : α → β)
    (v : Option Value) :
    readOr (fun v => (read v).map state) (state initial) v = state (readOr read initial v) := by
  cases v with
  | none => rfl
  | some v => cases h : read v <;> simp [readOr, h, Except.map]

theorem faultsAt_map (path : String) (read : Value → Except Violation α) (state : α → β)
    (v : Option Value) : faultsAt path (fun v => (read v).map state) v = faultsAt path read v := by
  cases v with
  | none => rfl
  | some v => cases h : read v <;> simp [faultsAt, h, Except.map]

theorem fst_of_mem_faultsAt {path : String} {read : Value → Except Violation α}
    {x : Option Value} {v : String × Violation} (h : v ∈ faultsAt path read x) : v.1 = path := by
  cases x with
  | none => cases h
  | some x => cases hread : read x <;> simp_all [faultsAt]

theorem field_value (path : String) (fs : Fields) (name : String) (initial : α)
    (read : Value → Except Violation α) :
    (field path fs name initial read).value = readOr read initial (Value.field? name fs) := by
  unfold field readOr
  cases Value.field? name fs with
  | none => rfl
  | some v => cases h : read v <;> simp [h, pure]

theorem field_violations (path : String) (fs : Fields) (name : String) (initial : α)
    (read : Value → Except Violation α) :
    (field path fs name initial read).violations
      = faultsAt (path ++ name) read (Value.field? name fs) := by
  unfold field faultsAt
  cases Value.field? name fs with
  | none => rfl
  | some v => cases h : read v <;> simp [h, pure]

end

/-- A field: its name, the value that states its default, and how a value is read into the one
that states it. -/
structure Rule where
  name : String
  initial : Value
  read : Value → Except Violation Value

namespace Rule

/-- The rule of a field that is read with `read` and stated with `state`. -/
def of {α : Type} (name : String) (initial : α) (read : Value → Except Violation α)
    (state : α → Value) : Rule where
  name
  initial := state initial
  read v := (read v).map state

/-- What a field says, from the value at its place. -/
def valueOf (r : Rule) : Option Value → Value := readOr r.read r.initial

/-- What is wrong with a field, from the value at its place. -/
def faultsOf (r : Rule) (path : String) : Option Value → List (String × Violation) :=
  faultsAt path r.read

section

variable {α : Type} (name : String) (initial : α) (read : Value → Except Violation α)
  (state : α → Value)

@[simp] theorem of_name : (of name initial read state).name = name := rfl

@[simp] theorem of_initial : (of name initial read state).initial = state initial := rfl

theorem of_read (v : Value) : (of name initial read state).read v = (read v).map state := rfl

theorem of_valueOf (v : Option Value) :
    (of name initial read state).valueOf v = state (readOr read initial v) :=
  readOr_map read initial state v

theorem of_faultsOf (path : String) (v : Option Value) :
    (of name initial read state).faultsOf path v = faultsAt path read v :=
  faultsAt_map path read state v

end

theorem valueOf_some {r : Rule} {x a : Value} (h : r.read x = .ok a) : r.valueOf (some x) = a := by
  simp [valueOf, readOr, h]

/-- Nothing is wrong with the value at the place of a field. -/
def Accepts (r : Rule) (v : Option Value) : Prop := ∀ x ∈ v, ∃ a, r.read x = .ok a

theorem faultsOf_eq_nil_iff (r : Rule) (path : String) {v : Option Value} :
    r.faultsOf path v = [] ↔ r.Accepts v := by
  unfold faultsOf Accepts
  cases v with
  | none => simp [faultsAt]
  | some v => cases h : r.read v <;> simp [faultsAt, h]

end Rule

/-- A section: its name, the name of its type, and the rules of its fields. -/
structure Part where
  name : String
  type : String
  rules : List Rule

namespace Part

/-- The path of a field in messages. -/
def path (p : Part) (r : Rule) : String := p.name ++ "." ++ r.name

/-- What a section says. -/
def valueOf (p : Part) (fs : Fields) : Value :=
  .mapping (p.rules.map fun r => (.text r.name, r.valueOf (valueAt? fs p.name r.name)))

/-- What is wrong with a section. -/
def faultsOf (p : Part) (fs : Fields) : List (String × Violation) :=
  match Value.field? p.name fs with
  | none | some (.mapping _) =>
    p.rules.flatMap fun r => r.faultsOf (p.path r) (valueAt? fs p.name r.name)
  | some _ => [(p.name, .notSection p.type)]

end Part

/-- The rule of the schema version. -/
def versionRule : Rule := .of "schema_version" ({} : Settings).schemaVersion (within 1 none) .int

/-- The section of the directory. -/
def directoryPart : Part where
  name := "directory"
  type := "DirectoryConfig"
  rules :=
    let d : DirectorySettings := {}
    [.of "api_base" d.apiBase base .text, .of "api_key" d.apiKey optionalText keyValue,
     .of "page_limit" d.pageLimit (within 1 (some 500)) .int,
     .of "timeout_seconds" d.timeout positive .float]

/-- The section of IMAP. -/
def imapPart : Part where
  name := "imap"
  type := "ImapConfig"
  rules :=
    let d : ImapSettings := {}
    [.of "default_host" d.defaultHost text .text,
     .of "default_port" d.defaultPort (within 1 (some 65535)) .int,
     .of "timeout_seconds" d.timeout positive .float]

/-- The section of the classifier. -/
def classifierPart : Part where
  name := "classifier"
  type := "ClassifierConfig"
  rules :=
    let d : ClassifierSettings := {}
    [.of "api_key" d.apiKey optionalText keyValue, .of "model" d.model text .text,
     .of "max_tokens" d.maxTokens (within 16 (some 4096)) .int,
     .of "max_retries" d.maxRetries (within 0 (some 10)) .int]

/-- The section of scans. -/
def scanPart : Part where
  name := "scan"
  type := "ScanConfig"
  rules :=
    let d : ScanSettings := {}
    [.of "inbox_limit" d.inboxLimit (within 1 (some 500)) .int,
     .of "sent_limit" d.sentLimit (within 1 (some 2000)) .int,
     .of "interval_minutes" d.intervalMinutes (within 0 (some 1440)) .int]

/-- The section of listings. -/
def mailPart : Part where
  name := "mail"
  type := "MailConfig"
  rules :=
    let d : MailSettings := {}
    [.of "preview_length" d.previewLength (within 0 (some 10000)) .int,
     .of "default_list_limit" d.defaultListLimit (within 1 (some 500)) .int]

/-- The section of the server. -/
def serverPart : Part where
  name := "server"
  type := "ServerConfig"
  rules :=
    let d : ServerSettings := {}
    [.of "api_key" d.apiKey optionalText keyValue, .of "host" d.host text .text,
     .of "port" d.port (within 1 (some 65535)) .int,
     .of "log_level" d.logLevel logLevel fun l => .text l.name]

/-- The sections in the order of the schema. -/
def schema : List Part :=
  [directoryPart, imapPart, classifierPart, scanPart, mailPart, serverPart]

theorem schema_names : (schema.map (·.name)).Nodup := by decide

theorem rule_names : ∀ p ∈ schema, (p.rules.map (·.name)).Nodup := by decide

/-! ## §4. The settings by the table. -/

section

variable {α : Type}

/-- A section of the table describes how some fields are read. -/
structure Part.Describes (p : Part) (initial : α) (read : Fields → Checked α)
    (state : α → Fields) : Prop where
  initial : state initial = p.rules.map fun r => (.text r.name, r.initial)
  value : ∀ inner, state (read inner).value
    = p.rules.map fun r => (.text r.name, r.valueOf (Value.field? r.name inner))
  violations : ∀ inner, (read inner).violations
    = p.rules.flatMap fun r => r.faultsOf (p.path r) (Value.field? r.name inner)

variable {p : Part} {initial : α} {read : Fields → Checked α} {state : α → Fields}

theorem Part.Describes.state_section (h : p.Describes initial read state) (fs : Fields) :
    .mapping (state (sectionOf fs p.name p.type initial read).value) = p.valueOf fs := by
  unfold sectionOf Part.valueOf valueAt?
  cases hsection : Value.field? p.name fs with
  | none => exact congrArg _ h.initial
  | some v =>
    cases v with
    | mapping inner => exact congrArg _ (h.value inner)
    | _ => exact congrArg _ h.initial

theorem Part.Describes.violations_section (h : p.Describes initial read state) (fs : Fields) :
    (sectionOf fs p.name p.type initial read).violations = p.faultsOf fs := by
  unfold sectionOf Part.faultsOf valueAt?
  cases hsection : Value.field? p.name fs with
  | none => simp [pure, Rule.faultsOf, faultsAt]
  | some v =>
    cases v with
    | mapping inner => exact h.violations inner
    | _ => rfl

end

theorem directoryPart_describes :
    directoryPart.Describes {} directory DirectorySettings.fields where
  initial := rfl
  value inner := by
    simp [directory, DirectorySettings.fields, directoryPart, bind, pure, field_value,
      Rule.of_valueOf]
  violations inner := by
    simp [directory, directoryPart, bind, pure, Part.path, field_violations, Rule.of_faultsOf]

theorem imapPart_describes : imapPart.Describes {} imap ImapSettings.fields where
  initial := rfl
  value inner := by
    simp [imap, ImapSettings.fields, imapPart, bind, pure, field_value, Rule.of_valueOf]
  violations inner := by
    simp [imap, imapPart, bind, pure, Part.path, field_violations, Rule.of_faultsOf]

theorem classifierPart_describes :
    classifierPart.Describes {} classifier ClassifierSettings.fields where
  initial := rfl
  value inner := by
    simp [classifier, ClassifierSettings.fields, classifierPart, bind, pure, field_value,
      Rule.of_valueOf]
  violations inner := by
    simp [classifier, classifierPart, bind, pure, Part.path, field_violations, Rule.of_faultsOf]

theorem scanPart_describes : scanPart.Describes {} scan ScanSettings.fields where
  initial := rfl
  value inner := by
    simp [scan, ScanSettings.fields, scanPart, bind, pure, field_value, Rule.of_valueOf]
  violations inner := by
    simp [scan, scanPart, bind, pure, Part.path, field_violations, Rule.of_faultsOf]

theorem mailPart_describes : mailPart.Describes {} mail MailSettings.fields where
  initial := rfl
  value inner := by
    simp [mail, MailSettings.fields, mailPart, bind, pure, field_value, Rule.of_valueOf]
  violations inner := by
    simp [mail, mailPart, bind, pure, Part.path, field_violations, Rule.of_faultsOf]

theorem serverPart_describes : serverPart.Describes {} server ServerSettings.fields where
  initial := rfl
  value inner := by
    simp [server, ServerSettings.fields, serverPart, bind, pure, field_value, Rule.of_valueOf]
  violations inner := by
    simp [server, serverPart, bind, pure, Part.path, field_violations, Rule.of_faultsOf]

/-- **The settings that some fields stand for**, stated as a mapping: each rule reads the value
at its own place. -/
theorem fields_settings (fs : Fields) : (settings fs).value.fields
    = (.text "schema_version", versionRule.valueOf (Value.field? "schema_version" fs))
      :: schema.map fun p => (.text p.name, p.valueOf fs) := by
  simp only [schema, List.map, ← directoryPart_describes.state_section,
    ← imapPart_describes.state_section, ← classifierPart_describes.state_section,
    ← scanPart_describes.state_section, ← mailPart_describes.state_section,
    ← serverPart_describes.state_section]
  simp only [settings, Settings.fields, bind, pure, field_value, versionRule, Rule.of_valueOf]
  rfl

/-- **What is wrong with some fields**: each rule checks the value at its own place. -/
theorem violations_settings (fs : Fields) : (settings fs).violations
    = versionRule.faultsOf "schema_version" (Value.field? "schema_version" fs)
      ++ schema.flatMap fun p => p.faultsOf fs := by
  simp only [schema, List.flatMap_cons, List.flatMap_nil,
    ← directoryPart_describes.violations_section,
    ← imapPart_describes.violations_section, ← classifierPart_describes.violations_section,
    ← scanPart_describes.violations_section, ← mailPart_describes.violations_section,
    ← serverPart_describes.violations_section]
  simp only [settings, bind, pure, field_violations, versionRule, Rule.of_faultsOf]
  rfl

/-! ## §5. Places of the settings. -/

section

variable {fs : Fields} {p : Part} {r : Rule}

theorem field?_version (fs : Fields) : Value.field? "schema_version" (settings fs).value.fields
    = some (versionRule.valueOf (Value.field? "schema_version" fs)) := by
  rw [fields_settings, field?_cons, field?_map_of_notMem _ _ (by decide), Option.none_or,
    if_pos rfl]

theorem field?_part (hp : p ∈ schema) (fs : Fields) :
    Value.field? p.name (settings fs).value.fields = some (p.valueOf fs) := by
  rw [fields_settings, field?_cons, field?_map Part.name (·.valueOf fs) schema_names hp,
    Option.some_or]

/-- A field of the settings is read from the value at its place. -/
theorem valueAt?_settings (hp : p ∈ schema) (hr : r ∈ p.rules) (fs : Fields) :
    valueAt? (settings fs).value.fields p.name r.name
      = some (r.valueOf (valueAt? fs p.name r.name)) := by
  rw [valueAt?, field?_part hp, Part.valueOf]
  exact field?_map Rule.name (fun r => r.valueOf (valueAt? fs p.name r.name)) (rule_names p hp) hr

/-- Settings have no fields beside those of the table. -/
theorem valueAt?_settings_of_forall_ne {section_ name : String}
    (h : ∀ p ∈ schema, ∀ r ∈ p.rules, (p.name, r.name) ≠ (section_, name)) (fs : Fields) :
    valueAt? (settings fs).value.fields section_ name = none := by
  by_cases hsection : ∃ p ∈ schema, p.name = section_
  · obtain ⟨p, hp, rfl⟩ := hsection
    have hname : name ∉ p.rules.map (·.name) := by
      intro hmem
      obtain ⟨r, hr, rfl⟩ := List.mem_map.1 hmem
      exact h p hp r hr rfl
    rw [valueAt?, field?_part hp, Part.valueOf]
    exact field?_map_of_notMem _ _ hname
  · have hnone : section_ ∉ schema.map (·.name) := fun hmem => hsection (List.mem_map.1 hmem)
    rw [valueAt?, fields_settings, field?_cons, field?_map_of_notMem _ _ hnone, Option.none_or,
      versionRule, Rule.of_valueOf]
    split_ifs <;> rfl

/-- What can be wrong with a section: that it is no mapping, or the faults of its fields. -/
theorem Part.mem_faultsOf_iff {v : String × Violation} : v ∈ p.faultsOf fs
    ↔ (v = (p.name, .notSection p.type) ∧
        ∃ x, Value.field? p.name fs = some x ∧ ∀ inner, x ≠ .mapping inner) ∨
      ∃ r ∈ p.rules, v ∈ r.faultsOf (p.path r) (valueAt? fs p.name r.name) := by
  unfold Part.faultsOf valueAt?
  cases hsection : Value.field? p.name fs with
  | none => simp [Rule.faultsOf, faultsAt]
  | some x => cases x <;> simp [Rule.faultsOf, faultsAt]

/-- Nothing is wrong with a section: it is a mapping, if it is there, and so with its fields. -/
structure Part.Accepts (p : Part) (fs : Fields) : Prop where
  mapping : ∀ v ∈ Value.field? p.name fs, ∃ inner, v = .mapping inner
  rules : ∀ r ∈ p.rules, r.Accepts (valueAt? fs p.name r.name)

theorem Part.faultsOf_eq_nil_iff (p : Part) (fs : Fields) : p.faultsOf fs = [] ↔ p.Accepts fs := by
  have hrules : (p.rules.flatMap fun r => r.faultsOf (p.path r) (valueAt? fs p.name r.name)) = []
      ↔ ∀ r ∈ p.rules, r.Accepts (valueAt? fs p.name r.name) := by
    rw [List.flatMap_eq_nil_iff]
    exact forall₂_congr fun r _ => r.faultsOf_eq_nil_iff _
  unfold Part.faultsOf
  split
  next hnone => exact hrules.trans ⟨fun h => ⟨by simp [hnone], h⟩, (·.rules)⟩
  next inner hinner => exact hrules.trans ⟨fun h => ⟨by simp [hinner], h⟩, (·.rules)⟩
  next v hv hother =>
    refine iff_of_false nofun fun h => ?_
    obtain ⟨inner, rfl⟩ := h.mapping v hother
    exact hv inner rfl

/-- **When nothing is wrong with some fields.** -/
theorem accepted_iff (fs : Fields) : (settings fs).violations = []
    ↔ versionRule.Accepts (Value.field? "schema_version" fs) ∧ ∀ p ∈ schema, p.Accepts fs := by
  rw [violations_settings, List.append_eq_nil_iff, versionRule.faultsOf_eq_nil_iff,
    List.flatMap_eq_nil_iff]
  exact and_congr_right fun _ => forall₂_congr fun p _ => p.faultsOf_eq_nil_iff fs

end

/-! ## §6. Validation. -/

section

variable {source : String} {fs : Fields} {s : Settings}

theorem validate_eq_ok_iff : validate source fs = .ok s
    ↔ (settings fs).violations = [] ∧ (settings fs).value = s ∧
      s.schemaVersion ≤ currentVersion := by
  unfold validate Checked.toExcept
  cases hnone : (settings fs).violations with
  | cons v vs => simp
  | nil => grind

theorem validate_eq_fields_iff {source' : String} {vs : List (String × Violation)} :
    validate source fs = .error (.fields source' vs)
      ↔ source = source' ∧ (settings fs).violations = vs ∧ vs ≠ [] := by
  unfold validate Checked.toExcept
  cases hnone : (settings fs).violations with
  | cons v vs => grind
  | nil => grind

theorem validate_eq_newer_iff {n : Int} : validate source fs = .error (.newerSchema n)
    ↔ (settings fs).violations = [] ∧ (settings fs).value.schemaVersion = n ∧
      currentVersion < n := by
  unfold validate Checked.toExcept
  cases hnone : (settings fs).violations with
  | cons v vs => simp
  | nil => grind

end

end Mailroom.Config
