import Mailroom.Proofs.Config.Overlay
import Mailroom.Proofs.Yaml.Constructing
/-!
  Mailroom.Proofs.Config.Reported
  ────────────────────────────────
  **WHICH CONFIGURATIONS ARE NEITHER LOADED NOR REPORTED AS BAD.**

  A file that is no YAML document, is no mapping or does not follow the schema is reported.  What
  is wrong with it escapes where no one looks for it: in the scalars of the document, in the keys
  at its top, in a version that cannot be written out.  Each of these is an obstacle, and there
  are no others.

      Obstacle             — what stands in the way of a report
      unreported_file_iff  — obstacles in a file
      load_reported_iff    — loading and checking, by obstacles
-/
namespace Mailroom.Config

open Mailroom.Yaml

/-! ## §1. Obstacles. -/

/-- An outcome is a failure that does not tell what is wrong with the configuration. -/
def Unreported {α : Type} : Except Failure α → Prop
  | .ok _ => False
  | .error e => e.isReported = false

/-- A version is too new, and the message that would say so cannot be written. -/
structure UnwritableVersion (s : Settings) : Prop where
  newer : currentVersion < s.schemaVersion
  long : Number.maxDigits < (Nat.toDigits 10 s.schemaVersion.natAbs).length

/-- What stands in the way of a report, by what is found at the path. -/
inductive Obstacle (env : Environment) : Found → Prop where
  /-- The path is a folder. -/
  | folder : Obstacle env .folder
  /-- An escape names a code point beyond the last. -/
  | escape {content : String} :
    compose content = .error .noSuchCharacter → Obstacle env (.file content)
  /-- The number in a directive is too long to be read. -/
  | directive {content : String} {digits : Nat} :
    compose content = .error (.tooManyDigits digits) → Obstacle env (.file content)
  /-- A part of the document is marked or taken as a truth value, a number or a point in time
  that it is not, and this is met first. -/
  | misspelt {content : String} {n m : Node} {f : Fault} :
    compose content = .ok (some n) → n.value = .error f → m.Within n → m.Misspelt f →
      Obstacle env (.file content)
  /-- A key at the top is no text. -/
  | key {content : String} {fs : Fields} :
    Yaml.load content = .ok (.mapping fs) → ¬ haveTextKeys fs → Obstacle env (.file content)
  /-- Nothing is wrong but the version, which is too new and cannot be written out. -/
  | version {content : String} {fs : Fields} :
    Yaml.load content = .ok (.mapping fs) → haveTextKeys fs →
      (settings (overlay env fs)).violations = [] → UnwritableVersion (settings fs).value →
      Obstacle env (.file content)

/-! ## §2. Settings. -/

section

variable {env : Environment} {fs : Fields}

/-- Fields are refused without a report for a key that is no text, or a version that is too
long. -/
theorem unreported_settingsOf_iff (source : String) : Unreported (settingsOf source env fs)
    ↔ ¬ haveTextKeys fs ∨ (haveTextKeys fs ∧ (settings (overlay env fs)).violations = [] ∧
        UnwritableVersion (settings fs).value) := by
  have hversion : (settings (overlay env fs)).value.schemaVersion
      = (settings fs).value.schemaVersion :=
    schemaVersion_congr (field?_untouched fs not_touched_version)
  by_cases hkeys : haveTextKeys fs
  · simp only [settingsOf_of_textKeys hkeys, hkeys, not_true_eq_false, false_or, true_and]
    cases h : validate source (overlay env fs) with
    | ok s =>
      obtain ⟨-, rfl, hold⟩ := validate_eq_ok_iff.1 h
      rw [hversion] at hold
      exact iff_of_false id fun hrefused => Int.not_lt.2 hold hrefused.2.newer
    | error e =>
      cases e with
      | fields source' vs =>
        obtain ⟨-, rfl, hne⟩ := validate_eq_fields_iff.1 h
        exact iff_of_false nofun fun hrefused => hne hrefused.1
      | newerSchema n =>
        obtain ⟨hnone, rfl, hnewer⟩ := validate_eq_newer_iff.1 h
        rw [hversion] at hnewer ⊢
        rw [Except.mapError, refused, ValidationError.isWritable]
        by_cases hlong : Number.maxDigits
            < (Nat.toDigits 10 (settings fs).value.schemaVersion.natAbs).length
        · rw [if_neg (by simpa using hlong)]
          exact iff_of_true rfl ⟨hnone, hnewer, hlong⟩
        · rw [if_pos (by simpa using hlong)]
          exact iff_of_false nofun fun hrefused => hlong hrefused.2.long
  · rw [settingsOf_of_not_textKeys hkeys]
    exact iff_of_true rfl (.inl hkeys)

/-- The defaults with the environment are accepted or reported. -/
theorem reported_defaults (source : String) : ¬ Unreported (settingsOf source env []) := by
  have hold : (settings []).value.schemaVersion = currentVersion := rfl
  rw [unreported_settingsOf_iff]
  rintro (hkeys | ⟨-, -, hversion⟩)
  · exact hkeys rfl
  · exact absurd hversion.newer (hold ▸ Int.lt_irrefl _)

end

/-! ## §3. Files. -/

/-- The outcome for what is found at a path. -/
def outcomeOf (path : String) (env : Environment) (found : Found) : Except Failure Settings := do
  settingsOf path env (← fieldsOfFile path found)

section

variable {env : Environment} {content : String}

theorem outcomeOf_error {f : Fault} (h : Yaml.load content = .error f) (hf : f ≠ .malformed)
    (path : String) : outcomeOf path env (.file content) = .error (.scalar f) := by
  simp only [outcomeOf, fieldsOfFile, h]
  rfl

theorem outcomeOf_mapping {fs : Fields} (h : Yaml.load content = .ok (.mapping fs))
    (path : String) : outcomeOf path env (.file content) = settingsOf path env fs := by
  simp only [outcomeOf, fieldsOfFile, h]
  rfl

/-- **An obstacle keeps a file from being reported.** -/
theorem Obstacle.unreported {found : Found} (h : Obstacle env found) (path : String) :
    Unreported (outcomeOf path env found) := by
  cases h with
  | folder => rfl
  | escape hcompose =>
    rw [outcomeOf_error (load_eq_error_iff.2 (.inl hcompose)) nofun]
    rfl
  | directive hcompose =>
    rw [outcomeOf_error (load_eq_error_iff.2 (.inl hcompose)) nofun]
    rfl
  | misspelt hcompose hvalue _ hm =>
    rw [outcomeOf_error (load_eq_error_iff.2 (.inr ⟨_, hcompose, hvalue⟩)) hm.named]
    rfl
  | key hload hkeys =>
    rw [outcomeOf_mapping hload, unreported_settingsOf_iff]
    exact .inl hkeys
  | version hload hkeys hnone hversion =>
    rw [outcomeOf_mapping hload, unreported_settingsOf_iff]
    exact .inr ⟨hkeys, hnone, hversion⟩

/-- A text that has no value is malformed, or there is an obstacle. -/
theorem obstacle_of_fault {f : Fault} (h : Yaml.load content = .error f) (hf : f ≠ .malformed) :
    Obstacle env (.file content) := by
  rcases load_eq_error_iff.1 h with hcompose | ⟨n, hcompose, hvalue⟩
  · have hlexical := lexical_compose content
    rw [hcompose] at hlexical
    cases hlexical with
    | malformed => exact absurd rfl hf
    | noSuchCharacter => exact .escape hcompose
    | tooManyDigits digits _ => exact .directive hcompose
  · have hblamed := n.fails_value
    rw [hvalue] at hblamed
    obtain ⟨m, hwithin, hm⟩ := hblamed.resolve_left hf
    exact .misspelt hcompose hvalue hwithin hm

/-- **A file that is not reported has an obstacle.** -/
theorem obstacle_of_unreported {found : Found} (path : String)
    (h : Unreported (outcomeOf path env found)) : Obstacle env found := by
  cases found with
  | nothing => cases h
  | folder => exact .folder
  | file content =>
    cases hload : Yaml.load content with
    | error f =>
      by_cases hf : f = .malformed
      · subst hf
        simp only [outcomeOf, fieldsOfFile, hload] at h
        cases h
      · exact obstacle_of_fault hload hf
    | ok v =>
      cases v with
      | mapping fs =>
        rw [outcomeOf_mapping hload, unreported_settingsOf_iff] at h
        rcases h with hkeys | ⟨hkeys, hnone, hversion⟩
        · exact .key hload hkeys
        · exact .version hload hkeys hnone hversion
      | null =>
        simp only [outcomeOf, fieldsOfFile, hload] at h
        exact absurd h (reported_defaults path)
      | _ =>
        simp only [outcomeOf, fieldsOfFile, hload] at h
        cases h

end

/-! ## §4. Loading and checking. -/

section

variable (find : String → Found) (path : Option String) (env : Environment)

/-- What is found at the path that is asked for, or else at the usual one. -/
def consulted : Found := find ((askedPath? path env).getD usualPath)

theorem unreported_load_iff :
    Unreported (load find path env) ↔ Obstacle env (consulted find path env) := by
  unfold load consulted
  cases askedPath? path env with
  | some p => exact ⟨obstacle_of_unreported p, (·.unreported p)⟩
  | none =>
    -- The usual file may be missing; then the defaults remain.
    dsimp only [Option.getD_none]
    cases find usualPath with
    | nothing => exact iff_of_false (reported_defaults _) nofun
    | folder => exact ⟨obstacle_of_unreported usualPath, (·.unreported usualPath)⟩
    | file content => exact ⟨obstacle_of_unreported usualPath, (·.unreported usualPath)⟩

/-- **A configuration is loaded or reported as bad exactly if there is no obstacle.**  Checking a
file says so exactly in these cases, and says yes exactly where loading returns settings. -/
theorem load_reported_iff :
    ((∃ s, load find path env = .ok s) ∨ (∃ e, load find path env = .error (.load e)) ∨
        (∃ e, load find path env = .error (.validation e))
      ↔ ¬ Obstacle env (consulted find path env)) ∧
    ((∃ answer, report find path env = .ok answer) ↔ ¬ Obstacle env (consulted find path env)) ∧
    ∀ valid message, report find path env = .ok (valid, message) →
      (valid = true ↔ ∃ s, load find path env = .ok s) := by
  rw [← unreported_load_iff]
  unfold report
  cases load find path env with
  | ok s => simp [Unreported]
  | error e => cases e <;> simp [Unreported, Failure.isReported]

end

/-- What is found where there is one file. -/
def oneFile (path content : String) (asked : String) : Found :=
  if asked == path then .file content else .nothing

/-- A limit that is no number is reported, so nothing stands in the way. -/
theorem load_reported_sample :
    ¬ Obstacle [] (consulted (oneFile "config.yaml" "scan:\n  inbox_limit: lots\n")
      (some "config.yaml") []) ∧
    report (oneFile "config.yaml" "scan:\n  inbox_limit: lots\n") (some "config.yaml") []
      = .ok (false, "Validation error: Configuration validation failed for config.yaml:\n"
          ++ "  - Field 'scan.inbox_limit' must be an integer") := by
  have h : report (oneFile "config.yaml" "scan:\n  inbox_limit: lots\n") (some "config.yaml") []
      = .ok (false, "Validation error: Configuration validation failed for config.yaml:\n"
          ++ "  - Field 'scan.inbox_limit' must be an integer") := by decide +kernel
  exact ⟨(load_reported_iff _ _ _).2.1.1 ⟨_, h⟩, h⟩

/-- A number for a key and a truth value that is none are neither read nor reported, also where
the file is only checked. -/
theorem key_and_scalar_unreported :
    load (oneFile "config.yaml" "1: 2\n") (some "config.yaml") [] = .error .badKey ∧
      report (oneFile "config.yaml" "1: 2\n") (some "config.yaml") [] = .error .badKey ∧
      load (oneFile "config.yaml" "a: !!bool maybe\n") (some "config.yaml") []
        = .error (.scalar (.notBool "maybe")) ∧
      report (oneFile "config.yaml" "a: !!bool maybe\n") (some "config.yaml") []
        = .error (.scalar (.notBool "maybe")) ∧
      Failure.badKey.isReported = false ∧
      (Failure.scalar (.notBool "maybe")).isReported = false := by
  decide +kernel

end Mailroom.Config
