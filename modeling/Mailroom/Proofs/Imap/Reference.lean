import Mailroom.Proofs.Imap.Mailserver
/-!
  Mailroom.Proofs.Imap.Reference
  ────────────────────────────────
  **A SERVER THAT OBEYS THE LAW.**

  The law of an honest server that tears nothing can be kept: a `Reference` server
  does so, whatever commands it is made to refuse.  It looks at the answer that it
  is about to give, and gives it only if the law allows it.

      Reference.lawful — every answer of the reference server keeps the law
-/
namespace Mailroom.Imap

open Mailroom.Simulation

/-- A server: its sent folder, the record of its mailbox in the directory, the
names of the flags that it shows, what the classifier says, and the commands that
are refused. -/
structure Reference where
  sent : String
  record : Json
  names : List String
  judge : Reply.Question → Except String (List Reply.Block)
  refuses : Command → Bool := fun _ => false

namespace Reference

/-- The circumstances under which the server works. -/
def regime (x : Reference) : Regime where
  sent := x.sent
  judges := fun q r => r = x.judge q

/-- A refusal. -/
def refusal : Response := World.line "NO" ""

/-- The answer to SEARCH, a number for each message found. -/
def searched (found : List Kept) : Response :=
  World.line okStatus (" ".intercalate (found.map fun k => toString k.uid))

/-- The line for a message in the answer to FETCH. -/
def header (x : Reference) (k : Kept) : String :=
  "1 (UID " ++ toString k.uid ++ " FLAGS (" ++ " ".intercalate (x.names.filter (· ∈ k.flags))
    ++ ") BODY[] \x7b" ++ toString k.raw.length ++ "\x7d"

/-- The answer to FETCH, two items for each message. -/
def fetched (x : Reference) (shown : List Kept) : Response where
  status := okStatus
  items := shown.flatMap fun k =>
    [.group [Text.encode (x.header k), k.raw], .line (Text.encode ")")]

/-- The answer to LIST, the line of the sent folder. -/
def listed (x : Reference) : Response :=
  World.line okStatus ("(" ++ sentAttribute ++ ") \"/\" \"" ++ x.sent ++ "\"")

/-- An answer to LIST that names no folder. -/
def unlisted : Response := { status := okStatus, items := [.group []] }

/-- SEARCH found the messages it should. -/
def Finds (found : List Kept) (r : Response) : Prop :=
  match uidsOf r.items with
  | .ok uids => uids.Perm (found.map (·.uid))
  | .error _ => True

instance (found : List Kept) (r : Response) : Decidable (Finds found r) := by
  unfold Finds
  split <;> infer_instance

instance (uids : List Int) (messages : List Kept) (found : List Fetched) :
    Decidable (Shown True uids messages found) :=
  decidable_of_iff ((found.map (·.uid)).Nodup ∧ (∀ f ∈ found, f.uid ∈ uids) ∧
      (∀ f ∈ found, ∃ k ∈ messages, f.uid = k.uid ∧ f.raw = k.raw ∧ f.flags.toFinset = k.flags) ∧
      ∀ k ∈ messages, k.uid ∈ uids → ∃ f ∈ found, f.uid = k.uid)
    ⟨fun ⟨h₁, h₂, h₃, h₄⟩ => ⟨h₁, h₂, h₃, fun _ => h₄⟩,
      fun ⟨h₁, h₂, h₃, h₄⟩ => ⟨h₁, h₂, h₃, h₄ trivial⟩⟩

/-- FETCH shows the messages it should. -/
def Shows (uids : List Int) (messages : List Kept) (r : Response) : Prop :=
  match readFetch r.items with
  | .ok found => Shown True uids messages found
  | .error _ => True

instance (uids : List Int) (messages : List Kept) (r : Response) :
    Decidable (Shows uids messages r) := by
  unfold Shows
  split <;> infer_instance

/-- LIST leads to the sent folder. -/
def Leads (x : Reference) (host : Json) (r : Response) : Prop :=
  match sentFolderOf host (.ok r) with
  | .ok name => name = x.sent
  | .error _ => True

instance (x : Reference) (host : Json) (r : Response) : Decidable (x.Leads host r) := by
  unfold Leads
  split <;> infer_instance

/-- What the server does about a command that it does not refuse. -/
def perform (x : Reference) (s : Site) : Command → Response × Site
  | .select quoted readonly =>
    (World.line okStatus "", { s with selected := some (World.unquotedName quoted, readonly) })
  | .search c =>
    match s.selected with
    | some (n, _) =>
      let found := (s.folders n).filter (·.meets c)
      (if Finds found (searched found) then searched found else refusal, s)
    | none => (refusal, s)
  | .fetch uids =>
    match s.selected with
    | some (n, _) =>
      let shown := (s.folders n).filter fun k => k.uid ∈ uids
      (if Shows uids (s.folders n) (x.fetched shown) then x.fetched shown else refusal, s)
    | none => (refusal, s)
  | .store uid change flag =>
    match s.selected with
    | some (_, false) =>
      ({ status := okStatus, items := [.absent] }, (s.flag uid change flag).note uid change flag)
    | _ => (refusal, s)
  | .list => (if x.Leads s.host x.listed then x.listed else unlisted, s)
  | .append _ _ _ | .startTls | .login _ _ | .logout => (World.line okStatus "", s)

/-- The state after a command that was refused. -/
def refused (s : Site) : Command → Site
  | .select _ _ => { s with selected := none }
  | _ => s

/-- A command that may be refused. -/
def isRefusable : Command → Bool
  | .select _ _ | .search _ | .fetch _ | .store _ _ _ => true
  | _ => false

/-- The answer of the server to a command. -/
def serve (x : Reference) (c : Command) (s : Site) : Except Fault Response × Site :=
  if isRefusable c && x.refuses c then (.ok refusal, refused s c)
  else (.ok (x.perform s c).1, (x.perform s c).2)

/-- The answer to every question. -/
def answer (x : Reference) : (c : Mailroom.Command) → Site → c.Answer × Site
  | .get _, s => (World.found x.record, s)
  | .scanId, s => (Script.someScanId, s)
  | .clock, s => (0, s)
  | .stamp, s => (Script.someStamp, s)
  | .draw, s => (Script.half, s)
  | .sleep _, s => ((), s)
  | .classify q, s => (x.judge q, s)
  | .connect e, s => (.ok [], { s with host := e.host, selected := none })
  | .imap c, s => x.serve c s
  | .smtp _, s => (.ok {}, s)

@[simp] theorem accepted?_refusal : accepted? (.ok refusal) = none := by decide

/-- What comes of a command keeps the law. -/
theorem serves (x : Reference) (c : Command) (s : Site) :
    x.regime.Serves s c (.ok (x.perform s c).1) (x.perform s c).2 := by
  cases c with
  | select quoted readonly => rfl
  | search c =>
    cases hsel : s.selected with
    | none =>
      simp only [perform, hsel]
      exact ⟨rfl, by simp⟩
    | some folder =>
      obtain ⟨n, ro⟩ := folder
      simp only [perform, hsel]
      refine ⟨rfl, ?_⟩
      -- An answer of found UIDs was checked before it was given; a refusal has no items.
      intro n' ro' items uids hsel' ha hu _
      rw [hsel] at hsel'
      cases hsel'
      split at ha
      next hfinds =>
        cases ha
        simpa only [Finds, hu] using hfinds
      next => simp at ha
  | fetch uids =>
    cases hsel : s.selected with
    | none =>
      simp only [perform, hsel]
      exact ⟨rfl, by simp⟩
    | some folder =>
      obtain ⟨n, ro⟩ := folder
      simp only [perform, hsel]
      refine ⟨rfl, ?_⟩
      -- The messages shown were checked in the same way.
      intro n' ro' items found hsel' ha hf
      rw [hsel] at hsel'
      cases hsel'
      split at ha
      next hshows =>
        cases ha
        simp only [Shows, hf] at hshows
        exact hshows
      next => simp at ha
  | store uid change flag =>
    simp only [perform]
    split
    next n hsel => exact ⟨⟨n, hsel⟩, rfl⟩
    next => exact .inl rfl
  | list =>
    simp only [perform]
    refine ⟨rfl, ?_⟩
    intro name hname
    split at hname
    next hleads =>
      simp only [Leads, hname] at hleads
      exact hleads
    next => cases hname
  | append mailbox flags raw => trivial
  | startTls => rfl
  | login user password => rfl
  | logout => rfl

/-- **The reference server keeps the law.** -/
theorem lawful (x : Reference) (c : Mailroom.Command) (s : Site) :
    x.regime.law s c (x.answer c s).1 (x.answer c s).2 := by
  cases c with
  | imap c =>
    simp only [answer, serve]
    split
    next h =>
      refine ⟨nofun, ?_⟩
      cases c with
      | select quoted readonly => rfl
      | search c => exact ⟨rfl, by simp⟩
      | fetch uids => exact ⟨rfl, by simp⟩
      | store uid change flag => exact .inl rfl
      | append _ _ _ | startTls | login _ _ | logout | list => simp [isRefusable] at h
    next => exact ⟨nofun, x.serves c s⟩
  | classify q => exact ⟨rfl, rfl⟩
  | get _ | scanId | clock | stamp | draw | sleep _ | connect _ | smtp _ => rfl

end Reference

end Mailroom.Imap
