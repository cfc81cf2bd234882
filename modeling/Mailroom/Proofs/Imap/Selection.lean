import Mailroom.Proofs.Scan.Conduct
/-!
  Mailroom.Proofs.Imap.Selection
  ────────────────────────────────
  **IN WHICH FOLDER A SESSION READS AND WRITES.**

  A session remembers the folder that it selected last and does not select it again.
  What it remembers is a folder that was `Entered`: its SELECT was accepted, and every
  SELECT sent after that failed.  So whenever a call sends SEARCH, FETCH or STORE, the
  folder of the call was entered in its mode:

      Held                — any calls on one session, one after the other
      addressed_entered   — at each SEARCH, FETCH or STORE of the next call
      stale_selection     — but the SELECT sent last may be one that failed

  After a SELECT that failed, no folder is selected or, where it was only refused for
  writing, the other one is.  The session does not forget the folder it was in before,
  and the next call for that one is carried out there, without a SELECT.
-/
namespace Mailroom.Imap

open Mailroom.Mail Mailroom.Scan Mailroom.Simulation

/-! ## §1. What came of the SELECTs. -/

/-- What came of a SELECT: the folder and whether it is only read, if it was accepted. -/
def selectIn : Event → Option (Option (String × Bool))
  | ⟨.imap (.select quoted readonly), r⟩ =>
    some ((accepted? r).map fun _ => (World.unquotedName quoted, readonly))
  | _ => none

/-- What came of the SELECTs that were sent, in their order. -/
def selects (tr : List Event) : List (Option (String × Bool)) := tr.filterMap selectIn

theorem selects_append (tr tr' : List Event) : selects (tr ++ tr') = selects tr ++ selects tr' :=
  List.filterMap_append

/-- A folder was selected in a mode, and all SELECTs since failed. -/
def Entered (tr : List Event) (x : String × Bool) : Prop :=
  ∃ earlier failed, selects tr = earlier ++ some x :: failed ∧ ∀ o ∈ failed, o = none

section Entered

variable {tr : List Event} {ev : Event} {x : String × Bool}

/-- The SELECT of a folder that was accepted enters it. -/
theorem Entered.of_select (tr : List Event) (h : selectIn ev = some (some x)) :
    Entered (tr ++ [ev]) x :=
  ⟨selects tr, [], by simp [selects, h], nofun⟩

/-- No other event leaves a folder but the SELECT of another one. -/
theorem Entered.concat (h : Entered tr x) (hev : ∀ y, selectIn ev ≠ some (some y)) :
    Entered (tr ++ [ev]) x := by
  obtain ⟨earlier, failed, htr, hfailed⟩ := h
  cases hs : selectIn ev with
  | none => exact ⟨earlier, failed, by simpa [selects, hs] using htr, hfailed⟩
  | some o =>
    cases o with
    | some y => exact absurd hs (hev y)
    | none =>
      refine ⟨earlier, failed ++ [none], ?_, ?_⟩
      · rw [selects_append, htr]
        simp [selects, hs]
      · intro o ho
        rcases List.mem_append.1 ho with ho | ho
        · exact hfailed o ho
        · exact List.mem_singleton.1 ho

/-- The SELECT sent last is the one by which a folder was entered, or it failed. -/
theorem Entered.getLast? (h : Entered tr x) :
    (selects tr).getLast? = some (some x) ∨ (selects tr).getLast? = some none := by
  obtain ⟨earlier, failed, htr, hfailed⟩ := h
  rw [htr]
  rcases List.eq_nil_or_concat failed with rfl | ⟨front, o, rfl⟩
  · exact .inl List.getLast?_concat
  · have ho : o = none := hfailed o (by simp)
    rw [ho, List.concat_eq_append, ← List.cons_append, ← List.append_assoc]
    exact .inr List.getLast?_concat

end Entered

/-! ## §2. Calls. -/

/-- A call of a method of a session. -/
inductive Call where
  | fetchPage (folder : String) (limit page : Int)
  | fetchUnclassified (folder : String) (limit : Int)
  | countFlag (folder flag : String)
  | setFlag (folder : String) (uid : Int) (flag : String)
  | removeFlag (folder : String) (uid : Int) (flag : String)
  | append (folder : String) (raw : Octets) (flags : String)
  | listFolders
  | findSentFolder
  | resolve (name : String)
  | close

/-- The program of a call; what it returns does not matter here. -/
def Call.program : Call → SessionM Unit
  | .fetchPage folder limit page => do let _ ← Imap.fetchPage folder limit page
  | .fetchUnclassified folder limit => do let _ ← Imap.fetchUnclassified folder limit
  | .countFlag folder flag => do let _ ← Imap.countFlag folder flag
  | .setFlag folder uid flag => Imap.setFlag folder uid flag
  | .removeFlag folder uid flag => Imap.removeFlag folder uid flag
  | .append folder raw flags => Imap.append folder raw flags
  | .listFolders => do let _ ← Imap.listFolders
  | .findSentFolder => do let _ ← Imap.findSentFolder
  | .resolve name => do let _ ← Imap.resolve name
  | .close => Imap.close

/-- The folder in which a call reads or writes messages, and whether it only reads. -/
def Call.target? : Call → Option (String × Bool)
  | .fetchPage folder _ _ | .fetchUnclassified folder _ | .countFlag folder _ => some (folder, true)
  | .setFlag folder _ _ | .removeFlag folder _ _ => some (folder, false)
  | .append _ _ _ | .listFolders | .findSentFolder | .resolve _ | .close => none

/-- Calls on one session, one after the other, whether they fail or not: the events, what
the session knows after them, and the world. -/
inductive Held {σ : Type} (law : Law σ) : List Event → Session → σ → Prop
  | new (host : Json) (previewLength : Int) (s : σ) : Held law [] { host, previewLength } s
  | call {tr tr' : List Event} {ss ss' : Session} {s s' : σ} {c : Call} {x : Except Failure Unit}
      (before : Held law tr ss s)
      (run : Dialogue.Ends law (c.program.run.run ss) s tr' (x, ss') s') :
      Held law (tr ++ tr') ss' s'

/-- A session remembers a folder only if it entered it. -/
def Remembers (ss : Session) (tr : List Event) : Prop := ∀ x, ss.selected = some x → Entered tr x

/-- Whether a command is about messages of the selected folder. -/
def addresses : Mailroom.Command → Bool
  | .imap (.search _) | .imap (.fetch _) | .imap (.store _ _ _) => true
  | _ => false

/-- From `n` events on, messages are addressed in a folder that was entered. -/
def agreement (n : Nat) (target? : Option (String × Bool)) : Rule := fun tr c =>
  n ≤ tr.length → addresses c → ∃ x ∈ target?, Entered tr x

theorem obeyed_agreement (tr : List Event) (target? : Option (String × Bool)) :
    Obeyed (agreement tr.length target?) tr := by
  intro before ev after htr hlong
  rw [htr, List.length_append, List.length_cons] at hlong
  omega

/-! ## §3. The operations of a session. -/

/-- A program of a session follows the agreement; what the session remembers stays true,
and `Q` is true of what is returned. -/
structure Agrees {σ α : Type} (law : Law σ) (n : Nat) (target? : Option (String × Bool))
    (prog : SessionM α) (Q : α → List Event → Prop) (ss : Session) (tr : List Event) (s : σ) :
    Prop where
  upholds : Upholds law (fun tr _ => Obeyed (agreement n target?) tr) prog (fun x ss tr _ =>
    Remembers ss tr ∧ match x with
      | .ok a => Q a tr
      | .error _ => True) ss tr s

namespace Agrees

variable {σ α β : Type} {law : Law σ} {n : Nat} {target? : Option (String × Bool)}
  {prog : SessionM α} {Q : α → List Event → Prop} {R : β → List Event → Prop}
  {ss : Session} {tr : List Event} {s : σ} {x : String × Bool}

theorem bind {f : α → SessionM β} (h : Agrees law n target? prog Q ss tr s)
    (hf : ∀ a ss tr s, Obeyed (agreement n target?) tr → Remembers ss tr → Q a tr →
      Agrees law n target? (f a) R ss tr s) : Agrees law n target? (prog >>= f) R ss tr s :=
  ⟨h.upholds.bind (fun a ss tr s hO h => (hf a ss tr s hO h.1 h.2).upholds)
    fun _ _ _ _ _ h => h⟩

theorem pure {a : α} (hO : Obeyed (agreement n target?) tr) (hk : Remembers ss tr)
    (h : Q a tr) : Agrees law n target? (pure a) Q ss tr s :=
  ⟨Upholds.pure hO ⟨hk, h⟩⟩

theorem throw {f : Failure} (hO : Obeyed (agreement n target?) tr) (hk : Remembers ss tr) :
    Agrees law n target? (throw f : SessionM α) Q ss tr s :=
  ⟨Upholds.throw hO ⟨hk, trivial⟩⟩

theorem ofExcept {ε : Type} {failure : ε → Failure} {x : Except ε α}
    (hO : Obeyed (agreement n target?) tr) (hk : Remembers ss tr) (h : ∀ a, Q a tr) :
    Agrees law n target? (SessionM.ofExcept failure x) Q ss tr s :=
  ⟨Upholds.ofExcept hO (fun a _ => ⟨hk, h a⟩) fun _ _ => ⟨hk, trivial⟩⟩

theorem session_bind {f : Session → SessionM β} (h : Agrees law n target? (f ss) R ss tr s) :
    Agrees law n target? (SessionM.session >>= f) R ss tr s :=
  ⟨Upholds.session_bind h.upholds⟩

theorem attempt_bind {f : Except Failure α → SessionM β}
    (h : Agrees law n target? prog (fun _ _ => True) ss tr s)
    (hf : ∀ x ss tr s, Obeyed (agreement n target?) tr → Remembers ss tr →
      Agrees law n target? (f x) R ss tr s) :
    Agrees law n target? (SessionM.attempt prog >>= f) R ss tr s :=
  ⟨Upholds.attempt_bind h.upholds fun x ss tr s hO h => (hf x ss tr s hO h.1).upholds⟩

/-- A command other than SELECT leaves no folder. -/
theorem command {operation : Operation} {folder : Option String} {c : Command}
    (hc : ∀ r y, selectIn ⟨.imap c, r⟩ ≠ some (some y)) (hO : Obeyed (agreement n target?) tr)
    (hk : Remembers ss tr) (haddress : addresses (.imap c) → ∃ x ∈ target?, Entered tr x) :
    Agrees law n target? (command operation folder c)
      (fun _ tr' => ∀ x, Entered tr x → Entered tr' x) ss tr s := by
  constructor
  unfold Upholds
  rw [command_run]
  refine ⟨hO, fun r s' _ => ?_⟩
  have hO' := hO.concat (c := .imap c) (fun _ => haddress) r
  refine ⟨hO', fun y hy => (hk y hy).concat (hc r), ?_⟩
  cases outcome operation folder r with
  | ok items => exact fun y hy => hy.concat (hc r)
  | error f => trivial

/-- After a SELECT that was accepted, or was not needed, the folder is entered. -/
theorem select {folder : String} {readonly : Bool} (hO : Obeyed (agreement n target?) tr)
    (hk : Remembers ss tr) :
    Agrees law n target? (select folder readonly) (fun _ tr' => Entered tr' (folder, readonly))
      ss tr s := by
  unfold Imap.select
  refine session_bind ?_
  split
  -- No SELECT is sent for the folder that is remembered: it was entered before.
  next h => exact pure hO hk (hk _ (by simpa using h))
  next h =>
    have hO' : ∀ r, Obeyed (agreement n target?)
        (tr ++ [⟨.imap (.select (quotedName folder) readonly), r⟩]) :=
      fun r => hO.concat (c := .imap (.select (quotedName folder) readonly)) (fun _ => nofun) r
    refine ⟨Upholds.command_bind hO (fun r s' items _ ha => ?_) fun r s' f _ ho => ?_⟩
    · have hentered : Entered (tr ++ [⟨.imap (.select (quotedName folder) readonly), r⟩])
          (folder, readonly) := by
        refine .of_select tr ?_
        simp [selectIn, ha, unquotedName_quotedName]
      refine Upholds.update (hO' r) ⟨fun y hy => ?_, hentered⟩
      cases hy
      exact hentered
    · -- The session remembers the folder it was in before, which it never left for another.
      refine ⟨hO' r, fun y hy => (hk y hy).concat fun z hz => ?_, trivial⟩
      simp [selectIn, accepted?_eq_none_of_outcome ho] at hz

/-- A session that was left remembers nothing. -/
theorem close (hO : Obeyed (agreement n target?) tr) :
    Agrees law n target? close (fun _ _ => True) ss tr s := by
  unfold Imap.close
  refine ⟨Upholds.ask_bind hO fun r s₁ _ => Upholds.update_bind ?_⟩
  have hO₁ := hO.concat (c := .imap .logout) (fun _ => nofun) r
  split
  · exact Upholds.throw hO₁ ⟨nofun, trivial⟩
  · exact Upholds.pure hO₁ ⟨nofun, trivial⟩

theorem search {folder : String} {c : Criterion} (hO : Obeyed (agreement n (some x)) tr)
    (hk : Remembers ss tr) (hx : Entered tr x) :
    Agrees law n (some x) (search folder c) (fun _ tr' => Entered tr' x) ss tr s := by
  unfold Imap.search
  refine bind (command (fun _ _ => nofun) hO hk fun _ => ⟨x, rfl, hx⟩) ?_
  intro items ss₁ tr₁ s₁ hO₁ hk₁ h
  exact ofExcept hO₁ hk₁ fun _ => h x hx

theorem fetch {folder : String} {uids : List Int} (hO : Obeyed (agreement n (some x)) tr)
    (hk : Remembers ss tr) (hx : Entered tr x) :
    Agrees law n (some x) (fetch folder uids) (fun _ _ => True) ss tr s := by
  unfold Imap.fetch
  split
  · exact pure hO hk trivial
  · refine bind (command (fun _ _ => nofun) hO hk fun _ => ⟨x, rfl, hx⟩) ?_
    intro items ss₁ tr₁ s₁ hO₁ hk₁ _
    refine bind (ofExcept (Q := fun _ _ => True) hO₁ hk₁ fun _ => trivial) ?_
    intro found ss₂ tr₂ s₂ hO₂ hk₂ _
    refine session_bind (bind (ofExcept (Q := fun _ _ => True) hO₂ hk₂ fun _ => trivial) ?_)
    exact fun _ _ _ _ hO₃ hk₃ _ => pure hO₃ hk₃ trivial

theorem checkFlag {flag : String} (hO : Obeyed (agreement n target?) tr) (hk : Remembers ss tr) :
    Agrees law n target? (checkFlag flag) (fun _ _ => True) ss tr s := by
  unfold Imap.checkFlag
  split
  · exact pure hO hk trivial
  · exact throw hO hk

theorem fetchPage {folder : String} {limit page : Int}
    (hO : Obeyed (agreement n (some (folder, true))) tr) (hk : Remembers ss tr) :
    Agrees law n (some (folder, true)) (fetchPage folder limit page) (fun _ _ => True) ss tr s := by
  unfold Imap.fetchPage
  refine bind (select hO hk) fun _ ss₁ tr₁ s₁ hO₁ hk₁ h₁ => ?_
  refine bind (search hO₁ hk₁ h₁) fun uids ss₂ tr₂ s₂ hO₂ hk₂ h₂ => ?_
  split
  · exact throw hO₂ hk₂
  · exact bind (fetch hO₂ hk₂ h₂) fun _ _ _ _ hO₃ hk₃ _ => pure hO₃ hk₃ trivial

theorem fetchUnclassified {folder : String} {limit : Int}
    (hO : Obeyed (agreement n (some (folder, true))) tr) (hk : Remembers ss tr) :
    Agrees law n (some (folder, true)) (fetchUnclassified folder limit) (fun _ _ => True)
      ss tr s := by
  unfold Imap.fetchUnclassified
  refine bind (select hO hk) fun _ ss₁ tr₁ s₁ hO₁ hk₁ h₁ => ?_
  exact bind (search hO₁ hk₁ h₁) fun uids ss₂ tr₂ s₂ hO₂ hk₂ h₂ => fetch hO₂ hk₂ h₂

theorem countFlag {folder flag : String} (hO : Obeyed (agreement n (some (folder, true))) tr)
    (hk : Remembers ss tr) :
    Agrees law n (some (folder, true)) (countFlag folder flag) (fun _ _ => True) ss tr s := by
  unfold Imap.countFlag
  refine bind (checkFlag hO hk) fun _ ss₁ tr₁ s₁ hO₁ hk₁ _ => ?_
  refine bind (select hO₁ hk₁) fun _ ss₂ tr₂ s₂ hO₂ hk₂ h₂ => ?_
  exact bind (search hO₂ hk₂ h₂) fun _ _ _ _ hO₃ hk₃ _ => pure hO₃ hk₃ trivial

theorem store {folder : String} {uid : Int} {change : Change} {flag : String}
    (hO : Obeyed (agreement n (some (folder, false))) tr) (hk : Remembers ss tr) :
    Agrees law n (some (folder, false)) (store folder uid change flag) (fun _ _ => True)
      ss tr s := by
  unfold Imap.store
  refine bind (checkFlag hO hk) fun _ ss₁ tr₁ s₁ hO₁ hk₁ _ => ?_
  refine bind (select hO₁ hk₁) fun _ ss₂ tr₂ s₂ hO₂ hk₂ h₂ => ?_
  refine bind (command (fun _ _ => nofun) hO₂ hk₂ fun _ => ⟨_, rfl, h₂⟩) ?_
  exact fun _ _ _ _ hO₃ hk₃ _ => pure hO₃ hk₃ trivial

theorem append {folder : String} {raw : Octets} {flags : String}
    (hO : Obeyed (agreement n target?) tr) (hk : Remembers ss tr) :
    Agrees law n target? (append folder raw flags) (fun _ _ => True) ss tr s := by
  unfold Imap.append
  refine bind (command (fun _ _ => nofun) hO hk nofun) ?_
  exact fun _ _ _ _ hO₁ hk₁ _ => pure hO₁ hk₁ trivial

theorem listFolders (hO : Obeyed (agreement n target?) tr) (hk : Remembers ss tr) :
    Agrees law n target? listFolders (fun _ _ => True) ss tr s := by
  unfold Imap.listFolders
  refine bind (command (fun _ _ => nofun) hO hk nofun) ?_
  exact fun _ _ _ _ hO₁ hk₁ _ => ofExcept hO₁ hk₁ fun _ => trivial

theorem usualSentFolder (hO : Obeyed (agreement n target?) tr) (hk : Remembers ss tr) :
    Agrees law n target? usualSentFolder (fun _ _ => True) ss tr s := by
  unfold Imap.usualSentFolder
  refine session_bind (bind (ofExcept (Q := fun _ _ => True) hO hk fun _ => trivial) ?_)
  exact fun _ _ _ _ hO₁ hk₁ _ => pure hO₁ hk₁ trivial

theorem findSentFolder (hO : Obeyed (agreement n target?) tr) (hk : Remembers ss tr) :
    Agrees law n target? findSentFolder (fun _ _ => True) ss tr s := by
  unfold Imap.findSentFolder
  refine attempt_bind (listFolders hO hk) fun found ss₁ tr₁ s₁ hO₁ hk₁ => ?_
  split
  · split
    · exact pure hO₁ hk₁ trivial
    · exact usualSentFolder hO₁ hk₁
  · exact usualSentFolder hO₁ hk₁
  · exact throw hO₁ hk₁

theorem resolve {name : String} (hO : Obeyed (agreement n target?) tr) (hk : Remembers ss tr) :
    Agrees law n target? (resolve name) (fun _ _ => True) ss tr s := by
  unfold Imap.resolve
  dsimp only
  split
  · exact pure hO hk trivial
  · split
    · refine session_bind ?_
      split
      · exact pure hO hk trivial
      · refine bind (findSentFolder hO hk) fun _ ss₁ tr₁ s₁ hO₁ hk₁ _ => ?_
        exact ⟨Upholds.update_bind (Upholds.pure hO₁ ⟨hk₁, trivial⟩)⟩
    · exact pure hO hk trivial

/-- What a program returns may be dropped. -/
theorem drop (h : Agrees law n target? prog Q ss tr s) :
    Agrees law n target? (prog >>= fun _ => Pure.pure ()) (fun _ _ => True) ss tr s :=
  bind h fun _ _ _ _ hO hk _ => pure hO hk trivial

/-- **Every call** follows the agreement on its own folder. -/
theorem call (c : Call) (hO : Obeyed (agreement n c.target?) tr) (hk : Remembers ss tr) :
    Agrees law n c.target? c.program (fun _ _ => True) ss tr s := by
  cases c with
  | fetchPage folder limit page => exact drop (fetchPage hO hk)
  | fetchUnclassified folder limit => exact drop (fetchUnclassified hO hk)
  | countFlag folder flag => exact drop (countFlag hO hk)
  | setFlag folder uid flag => exact store hO hk
  | removeFlag folder uid flag => exact store hO hk
  | append folder raw flags => exact append hO hk
  | listFolders => exact drop (listFolders hO hk)
  | findSentFolder => exact drop (findSentFolder hO hk)
  | resolve name => exact drop (resolve hO hk)
  | close => exact close hO

end Agrees

/-! ## §4. Any calls on one session. -/

section

variable {σ : Type} {law : Law σ} {tr tr' : List Event} {ss : Session} {s t : σ}

/-- After any calls, what a session remembers is true. -/
theorem Held.remembers (h : Held law tr ss s) : Remembers ss tr := by
  induction h with
  | new host previewLength s => exact nofun
  | @call tr tr' ss ss' s s' c x before run ih =>
    -- A call starts with what the calls before it left, also where they failed.
    exact ((Agrees.call c (obeyed_agreement tr c.target?) ih).upholds.ends run).1

/-- The events of some calls on a session, one after the other in a world that has one
answer to each question, and the session and the world after them. -/
def history (answer : (c : Mailroom.Command) → σ → c.Answer × σ) :
    List Call → Session → σ → List Event × Session × σ
  | [], ss, s => ([], ss, s)
  | c :: cs, ss, s =>
    let d := c.program.run.run ss
    let rest := history answer cs (d.run answer s).1.2 (d.run answer s).2
    (d.trace answer s ++ rest.1, rest.2)

theorem held_history {answer : (c : Mailroom.Command) → σ → c.Answer × σ} (cs : List Call)
    (h : Held (Dialogue.lawOf answer) tr ss s) :
    Held (Dialogue.lawOf answer) (tr ++ (history answer cs ss s).1) (history answer cs ss s).2.1
      (history answer cs ss s).2.2 := by
  induction cs generalizing tr ss s with
  | nil => simpa [history] using h
  | cons c cs ih =>
    have hnext := ih (h.call (Dialogue.ends_lawOf answer (c.program.run.run ss) s))
    simpa [history] using hnext

/-- **Messages are addressed in a folder that was entered.**  At each SEARCH, FETCH and
STORE, after any calls on the session and at any point of a further one, the call has a
folder, a SELECT of this folder in its mode was accepted, and every SELECT sent since
failed: so the SELECT sent last was that one, or it failed. -/
theorem addressed_entered (h : Held law tr ss s) (c : Call)
    {d : Dialogue (Except Failure Unit × Session)}
    (run : Dialogue.Reaches law (c.program.run.run ss) s tr' d t) {before after : List Event}
    {ev : Event} (hev : tr' = before ++ ev :: after) (haddress : addresses ev.1) :
    ∃ x ∈ c.target?, Entered (tr ++ before) x ∧
      ((selects (tr ++ before)).getLast? = some (some x) ∨
        (selects (tr ++ before)).getLast? = some none) := by
  have hobeyed := ((Agrees.call c (obeyed_agreement tr c.target?) h.remembers).upholds.reaches
    run).now
  -- The rule is about this call only: it begins where the events before the call end.
  have hlong : tr.length ≤ (tr ++ before).length := by simp
  obtain ⟨x, hx, hentered⟩ := hobeyed (tr ++ before) ev after (by simp [hev]) hlong haddress
  exact ⟨x, hx, hentered, hentered.getLast?⟩

end

/-! ## §5. A SELECT that failed. -/

namespace Sample

/-- A session on a new connection. -/
def fresh : Session := { host := .text "imap.x.io", previewLength := 200 }

/-- An answer that a command was carried out. -/
def done (text : String) : Except Fault Response :=
  .ok { status := okStatus, items := [.line (octets text)] }

/-- A folder is counted, another one cannot be written to, and the first is counted again. -/
def script : Script where
  replies := [done "2", done "1 2", .error (.connection "\"Shared\" is not writable"), done "5"]

/-- The messages of the inbox with a keyword are counted. -/
def count : Call := .countFlag inbox "interested"

/-- A keyword is set in a folder that others share. -/
def tag : Call := .setFlag "Shared" 1 "interested"

/-- The session after the inbox was counted and the tag was not set, and the script. -/
def past : List Event × Session × Script := history Script.answer [count, tag] fresh script

/-- Now the inbox is counted with a single command, though the SELECT sent last failed. -/
theorem count_again : ∃ ev,
    (count.program.run.run past.2.1).trace Script.answer past.2.2 = [ev] ∧
      addresses ev.1 = true ∧ (selects past.1).getLast? = some none := by
  have hlength : ((count.program.run.run past.2.1).trace Script.answer past.2.2).length = 1 := by
    decide +kernel
  have hall : ((count.program.run.run past.2.1).trace Script.answer past.2.2).all
      (fun ev => addresses ev.1) = true := by
    decide +kernel
  obtain ⟨ev, htrace⟩ := List.length_eq_one_iff.1 hlength
  rw [htrace] at hall ⊢
  exact ⟨ev, rfl, by simpa using hall, by decide +kernel⟩

end Sample

open Sample in
theorem addressed_entered_sample :
    ∃ x ∈ count.target?, Entered past.1 x ∧
      ((selects past.1).getLast? = some (some x) ∨ (selects past.1).getLast? = some none) := by
  obtain ⟨ev, htrace, haddress, -⟩ := count_again
  have hheld : Held (Dialogue.lawOf Script.answer) past.1 past.2.1 past.2.2 := by
    have hnew : Held (Dialogue.lawOf Script.answer) [] fresh script := .new _ _ _
    have hpast := held_history [count, tag] hnew
    rwa [List.nil_append] at hpast
  have hrun := Dialogue.ends_lawOf Script.answer (count.program.run.run past.2.1) past.2.2
  have hone : (count.program.run.run past.2.1).trace Script.answer past.2.2 = [] ++ ev :: [] :=
    htrace
  obtain ⟨x, hx, h⟩ := addressed_entered hheld count hrun hone haddress
  rw [List.append_nil] at h
  exact ⟨x, hx, h⟩

open Sample in
/-- The SELECT sent last need not be the one of the folder: whatever is answered, it would
have to be, but where a SELECT failed the next call may do without. -/
theorem stale_selection :
    ¬ ∀ (script : Script) (cs : List Call) (c : Call), ∀ before ev after,
      (c.program.run.run (history Script.answer cs fresh script).2.1).trace Script.answer
        (history Script.answer cs fresh script).2.2 = before ++ ev :: after →
      addresses ev.1 = true → ∃ x ∈ c.target?,
        (selects ((history Script.answer cs fresh script).1 ++ before)).getLast?
          = some (some x) := by
  intro h
  obtain ⟨ev, htrace, haddress, hfailed⟩ := count_again
  obtain ⟨x, -, hx⟩ := h script [count, tag] count [] ev [] htrace haddress
  rw [List.append_nil] at hx
  have hlast : (selects past.1).getLast? = some (some x) := hx
  rw [hfailed] at hlast
  cases hlast

end Mailroom.Imap
