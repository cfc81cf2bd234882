import Mathlib.Data.Finset.Dedup
import Mathlib.Data.Finset.Union
import Mailroom.Imap.Session
import Mailroom.Proofs.Dialogue.Run
import Mailroom.Simulation.World
/-!
  Mailroom.Proofs.Imap.Mailserver
  ────────────────────────────────
  **WHAT AN IMAP SERVER MAY ANSWER, AND WHAT IT KEEPS.**

  A server keeps messages in folders; the flags of a message are a set.  `Regime.law`
  says what may come of each command: any command may fail at any time, by a fault
  of the connection or by an answer other than `OK`, but an `OK` means that the
  command was carried out on the selected folder.  A regime fixes the rest:

      sent    — the folder to which the name of the sent folder resolves
      torn    — whether a STORE that failed may have set its flag all the same
      honest  — whether SEARCH finds, and FETCH shows, all that is asked for
      judges  — which answers the classifier may give to a question
-/
namespace Mailroom.Imap

open Mailroom.Simulation

/-! ## §1. Messages and folders. -/

/-- A message as a server keeps it. -/
structure Kept where
  uid : Int
  flags : Finset String
  raw : Octets
  deriving DecidableEq

/-- The message with more flags. -/
def Kept.add (flags : Finset String) (k : Kept) : Kept := { k with flags := k.flags ∪ flags }

@[simp] theorem Kept.add_uid (fs : Finset String) (k : Kept) : (k.add fs).uid = k.uid := rfl

@[simp] theorem Kept.add_flags (fs : Finset String) (k : Kept) :
    (k.add fs).flags = k.flags ∪ fs := rfl

@[simp] theorem Kept.add_empty (k : Kept) : k.add ∅ = k := by simp [Kept.add]

theorem Kept.add_add (fs gs : Finset String) (k : Kept) :
    (k.add fs).add gs = k.add (fs ∪ gs) := by simp [Kept.add, Finset.union_assoc]

/-- The message with a flag set or taken away. -/
def Kept.change (flag : String) : Change → Kept → Kept
  | .add, k => k.add {flag}
  | .remove, k => { k with flags := k.flags.erase flag }

/-- Whether a criterion finds a message. -/
def Kept.meets (k : Kept) : Criterion → Bool
  | .all => true
  | .keyword flag => flag ∈ k.flags
  | .unkeyword flag => flag ∉ k.flags
  | .system key => World.systemFlag key ∈ k.flags

/-- The messages of each folder. -/
abbrev Folders : Type := String → List Kept

namespace Folders

/-- The folders with the messages of a UID in one of them changed. -/
def change (fs : Folders) (folder : String) (uid : Int) (f : Kept → Kept) : Folders :=
  fun n => if n = folder then (fs n).map fun k => if k.uid = uid then f k else k else fs n

end Folders

/-! ## §2. Writes. -/

/-- A flag to be set on a message. -/
structure Write where
  folder : String
  uid : Int
  flag : String
  deriving Repr, DecidableEq

/-- The flags that some writes set on the messages of a UID. -/
def flagsSet (ws : List Write) (folder : String) (uid : Int) : Finset String :=
  ((ws.filter fun w => w.folder = folder ∧ w.uid = uid).map (·.flag)).toFinset

@[simp] theorem mem_flagsSet {ws : List Write} {folder flag : String} {uid : Int} :
    flag ∈ flagsSet ws folder uid ↔ ⟨folder, uid, flag⟩ ∈ ws := by
  simp only [flagsSet, List.mem_toFinset, List.mem_map, List.mem_filter, decide_eq_true_eq]
  constructor
  · intro h
    obtain ⟨w, ⟨hw, rfl, rfl⟩, rfl⟩ := h
    exact hw
  · intro h
    exact ⟨_, ⟨h, rfl, rfl⟩, rfl⟩

namespace Folders

/-- The folders after a write. -/
def write (fs : Folders) (w : Write) : Folders :=
  fs.change w.folder w.uid (Kept.change w.flag .add)

/-- The folders after some writes. -/
def writeAll (fs : Folders) (ws : List Write) : Folders := ws.foldl write fs

@[simp] theorem writeAll_nil (fs : Folders) : fs.writeAll [] = fs := rfl

theorem writeAll_append (fs : Folders) (ws vs : List Write) :
    fs.writeAll (ws ++ vs) = (fs.writeAll ws).writeAll vs := List.foldl_append

theorem write_apply (fs : Folders) (w : Write) (n : String) :
    fs.write w n = (fs n).map fun k => k.add (flagsSet [w] n k.uid) := by
  -- In another folder, or for another UID, the set of flags written is empty.
  unfold write change
  split
  next h =>
    apply List.map_congr_left
    intro k _
    by_cases hu : k.uid = w.uid
    · simp [hu, h, flagsSet, Kept.change]
    · simp [hu, Ne.symm hu, flagsSet]
  next h => simp [flagsSet, Ne.symm h]

/-- **Writes add exactly their flags**, and change nothing else. -/
theorem writeAll_apply (fs : Folders) (ws : List Write) (n : String) :
    fs.writeAll ws n = (fs n).map fun k => k.add (flagsSet ws n k.uid) := by
  induction ws generalizing fs with
  | nil => simp [flagsSet]
  | cons w ws ih =>
    -- A message gains the flag of the first write, then those of the rest.
    show (fs.write w).writeAll ws n = _
    rw [ih, write_apply, List.map_map]
    apply List.map_congr_left
    intro k _
    show (k.add (flagsSet [w] n k.uid)).add (flagsSet ws n k.uid) = _
    rw [Kept.add_add]
    congr 1
    ext flag
    simp

/-- Only which writes there are counts, not their order or number. -/
theorem writeAll_congr (fs : Folders) {ws vs : List Write} (h : ∀ w, w ∈ ws ↔ w ∈ vs) :
    fs.writeAll ws = fs.writeAll vs := by
  funext n
  rw [writeAll_apply, writeAll_apply]
  have : ∀ u, flagsSet ws n u = flagsSet vs n u := by
    intro u
    ext flag
    simp [h]
  simp [this]

theorem mem_writeAll {fs : Folders} {ws : List Write} {n : String} {k : Kept} :
    k ∈ fs.writeAll ws n ↔ ∃ k₀ ∈ fs n, k₀.add (flagsSet ws n k₀.uid) = k := by
  rw [writeAll_apply]
  exact List.mem_map

theorem writeAll_uids (fs : Folders) (ws : List Write) (n : String) :
    (fs.writeAll ws n).map (·.uid) = (fs n).map (·.uid) := by
  rw [writeAll_apply, List.map_map]
  rfl

end Folders

/-! ## §3. Servers. -/

/-- A server with the connection to it: the messages in its folders, the host under
which it was reached, the folder selected and whether only for reading, and the
flags that it confirmed to have set, in order. -/
structure Site where
  folders : Folders
  host : Json := .null
  selected : Option (String × Bool) := none
  journal : List Write := []

namespace Site

/-- The server with a flag of a message of the selected folder changed. -/
def flag (s : Site) (uid : Int) (change : Change) (flag : String) : Site :=
  match s.selected with
  | some (n, _) => { s with folders := s.folders.change n uid (Kept.change flag change) }
  | none => s

/-- The server with a confirmed flag noted down. -/
def note (s : Site) (uid : Int) (change : Change) (flag : String) : Site :=
  match s.selected, change with
  | some (n, _), .add => { s with journal := s.journal ++ [⟨n, uid, flag⟩] }
  | _, _ => s

end Site

/-- The items of an answer to a command that was carried out. -/
def accepted? : Except Fault Response → Option (List Item)
  | .ok r => if r.status == okStatus then some r.items else none
  | .error _ => none

/-- What FETCH shows of the messages of a folder: each at most once and as it is,
and all that were asked for if it is to be complete. -/
structure Shown (complete : Prop) (uids : List Int) (messages : List Kept)
    (found : List Fetched) : Prop where
  distinct : (found.map (·.uid)).Nodup
  asked : ∀ f ∈ found, f.uid ∈ uids
  truthful : ∀ f ∈ found, ∃ k ∈ messages,
    f.uid = k.uid ∧ f.raw = k.raw ∧ f.flags.toFinset = k.flags
  whole : complete → ∀ k ∈ messages, k.uid ∈ uids → ∃ f ∈ found, f.uid = k.uid

/-- The usual name of the sent folder on a host. -/
def usualSentFolderOf (host : Json) : Except Failure String :=
  match host.textFor "lower" with
  | .ok h => .ok (sentFolderFor h)
  | .error e => .error (.misuse e)

/-- What LIST comes to for somebody who looks for the sent folder on a host. -/
def sentFolderOf (host : Json) (r : Except Fault Response) : Except Failure String :=
  match accepted? r with
  | none => usualSentFolderOf host
  | some items =>
    match readFolders items with
    | .error e => .error (.wire e)
    | .ok folders =>
      match folders.find? fun f => f.attributes.contains sentAttribute with
      | some f => .ok f.name
      | none => usualSentFolderOf host

/-! ## §4. What may come of a command. -/

/-- The circumstances under which a server and a classifier work. -/
structure Regime where
  sent : String
  torn : Prop := False
  honest : Prop := True
  judges : Reply.Question → Except String (List Reply.Block) → Prop := fun _ _ => True

namespace Regime

/-- What may come of a command to a server.  What APPEND does is left open. -/
def Serves (g : Regime) (s : Site) : Command → Except Fault Response → Site → Prop
  | .select quoted readonly, r, s' =>
    s' = { s with selected := (accepted? r).map fun _ => (World.unquotedName quoted, readonly) }
  | .search c, r, s' =>
    s' = s ∧ ∀ n ro items uids, s.selected = some (n, ro) → accepted? r = some items →
      uidsOf items = .ok uids → g.honest →
      uids.Perm (((s.folders n).filter (·.meets c)).map (·.uid))
  | .fetch uids, r, s' =>
    s' = s ∧ ∀ n ro items found, s.selected = some (n, ro) → accepted? r = some items →
      readFetch items = .ok found → Shown g.honest uids (s.folders n) found
  | .store uid change flag, r, s' =>
    match accepted? r with
    | some _ => (∃ n, s.selected = some (n, false)) ∧
      s' = (s.flag uid change flag).note uid change flag
    | none => s' = s ∨ g.torn ∧ s' = s.flag uid change flag
  | .list, r, s' => s' = s ∧ ∀ name, sentFolderOf s.host r = .ok name → name = g.sent
  | .append _ _ _, _, _ => True
  | .startTls, _, s' | .login _ _, _, s' | .logout, _, s' => s' = s

/-- The law of a regime.  A new connection has no folder selected; the connection
fails only in ways that are expected of connections; what is asked of the
directory, the clock or the classifier does not touch the messages. -/
def law (g : Regime) : Law Site
  | s, .imap c, r, s' => (∀ reason, r ≠ .error (.foreign reason)) ∧ g.Serves s c r s'
  | s, .connect e, _, s' => s' = { s with host := e.host, selected := none }
  | s, .classify q, r, s' => g.judges q r ∧ s' = s
  | s, _, _, s' => s' = s

/-- What the classifier may answer matters only where it is asked. -/
theorem law_judges {g : Regime}
    (judges : Reply.Question → Except String (List Reply.Block) → Prop)
    (h : ∀ q r, g.judges q r → judges q r) {s s' : Site} {c : Mailroom.Command} {r : c.Answer}
    (hr : g.law s c r s') : { g with judges }.law s c r s' := by
  cases c with
  | imap c => cases c <;> exact hr
  | classify q => exact ⟨h q r hr.1, hr.2⟩
  | get _ | scanId | clock | stamp | draw | sleep _ | connect _ | smtp _ => exact hr

end Regime

end Mailroom.Imap
