import Mailroom.Proofs.Directory.Retries
import Mailroom.Proofs.Number.Nearest
/-!
  Mailroom.Proofs.Directory.Pauses
  ────────────────────────────────
  **HOW LONG A PAUSE IS.**

  A pause is its base, shifted at random by up to a fifth.  The base is the number that the
  server asks for, or the next of the client's delays.  From a base that is not negative
  follows a pause that is not negative, within a fifth of it but for roundings; a number that
  is negative, infinite or not a number is taken for a base as well, and no pause can be that:

      jittered_spec, jittered_of_neg  — what the shift makes of a base
      Client.Base, Asks               — where a base comes from
      pauses_sane                     — every pause of every run
      negative_pause                  — a server that asks for less than nothing
-/
namespace Mailroom.Directory

open Mailroom.Number Mailroom.Number.Binary64

/-! ## §1. The shift. -/

/-- A base shifted by the random number `R`, exactly. -/
def shifted (B R : ℚ) : ℚ := B + B / 5 * (2 * R - 1)

/-- **A pause that can be made**: the exact one is not negative and within a fifth of its base,
and the number of seconds is the exact one but for roundings.  Only a base beyond the place
1023 may run over. -/
structure Sane (B R : ℚ) (seconds : Binary64) : Prop where
  nonneg : 0 ≤ shifted B R
  within : |shifted B R - B| ≤ B / 5
  rounded : (∃ v, seconds.Is v ∧ 0 ≤ v ∧ |v - shifted B R| ≤ B / 2 ^ 50 + place (-1072)) ∨
    place 1023 < B ∧ seconds = .infinite false

section

variable {base random : Binary64} {B R : ℚ}

theorem shifted_within (hB : 0 ≤ B) (h0 : 0 ≤ R) (h1 : R < 1) :
    0 ≤ shifted B R ∧ |shifted B R - B| ≤ B / 5 := by
  have hturn : |2 * R - 1| ≤ 1 := abs_le.2 ⟨by linarith, by linarith⟩
  have hshift : |shifted B R - B| ≤ B / 5 := by
    rw [shifted, add_sub_cancel_left, abs_mul, abs_of_nonneg (by positivity)]
    exact mul_le_of_le_one_right (by positivity) hturn
  refine ⟨?_, hshift⟩
  have hlow := (abs_le.1 hshift).1
  linarith

theorem is_one : (Binary64.ofInt 1).Is 1 :=
  ⟨false, 2 ^ 52, -52, by decide +kernel, by norm_num, by norm_num, by norm_num,
    by norm_num [signed, place]⟩

theorem is_two : (Binary64.ofInt 2).Is 2 :=
  ⟨false, 2 ^ 52, -51, by decide +kernel, by norm_num, by norm_num, by norm_num,
    by norm_num [signed, place]⟩

/-- A fifth is no binary64 number, but there is one close to it. -/
theorem is_fifth : ∃ z, (Binary64.ofDecimal false 2 (-1)).Is z ∧ |z - 1 / 5| ≤ 1 / 2 ^ 55 :=
  ⟨7205759403792794 / 2 ^ 55, ⟨false, 7205759403792794, -55, by decide +kernel, by norm_num,
    by norm_num, by norm_num, by norm_num [signed, place]⟩, by rw [abs_le]; norm_num⟩

theorem tiny_le : tiny ≤ 1 / 2 ^ 54 := by
  calc tiny ≤ place (-54) := place_mono (by norm_num)
    _ = 1 / 2 ^ 54 := by norm_num [place]

/-- The random number is turned into one from -1 to 1. -/
theorem turn_spec (hR : random.Is R) (h0 : 0 ≤ R) (h1 : R < 1) :
    ∃ T, (((Binary64.ofInt 2).mul random).sub (.ofInt 1)).Is T ∧ |T| ≤ 1 ∧
      |T - (2 * R - 1)| ≤ 1 / 2 ^ 51 := by
  have htiny := tiny_le
  obtain ⟨D, hD, hDclosest, hDle⟩ := (nearest_mul is_two hR).bounded is_two
    (by rw [abs_of_nonneg (by positivity)]; linarith)
  have hD0 := hDclosest.nonneg (by positivity)
  have hDnear := hDclosest.near
  rw [abs_of_nonneg (by positivity : 0 ≤ 2 * R)] at hDnear
  have hDone : |D - 1| ≤ 1 := by
    have hDle := (abs_le.1 hDle).2
    exact abs_le.2 ⟨by linarith, by linarith⟩
  obtain ⟨T, hT, hTclosest, hTle⟩ := (nearest_sub hD is_one).bounded is_one hDone
  refine ⟨T, hT, hTle, ?_⟩
  have hTnear := hTclosest.near
  calc |T - (2 * R - 1)| = |(T - (D - 1)) + (D - 2 * R)| := by ring_nf
    _ ≤ |T - (D - 1)| + |D - 2 * R| := abs_add_le _ _
    _ ≤ 1 / 2 ^ 51 := by linarith

/-- A fifth of a base. -/
theorem share_spec (hB : base.Is B) :
    ∃ P, (base.mul (.ofDecimal false 2 (-1))).Is P ∧ |P - B / 5| ≤ |B| / 2 ^ 52 + tiny := by
  obtain ⟨z, hz, hfifth⟩ := is_fifth
  obtain ⟨y, hy⟩ := hB.abs
  have hz1 : |z| ≤ 1 := by
    have habs := abs_le.1 hfifth
    exact abs_le.2 ⟨by linarith, by linarith⟩
  have hle : |B * z| ≤ |B| := by
    rw [abs_mul]
    exact mul_le_of_le_one_right (abs_nonneg B) hz1
  obtain ⟨P, hP, hclosest, -⟩ := (nearest_mul hB hz).bounded hy hle
  refine ⟨P, hP, ?_⟩
  have hnear := hclosest.near
  have hexact : |B * z - B / 5| ≤ |B| / 2 ^ 55 := by
    have hfactor : B * z - B / 5 = B * (z - 1 / 5) := by ring
    rw [hfactor, abs_mul]
    calc |B| * |z - 1 / 5| ≤ |B| * (1 / 2 ^ 55) := by gcongr
      _ = |B| / 2 ^ 55 := by ring
  calc |P - B / 5| = |(P - B * z) + (B * z - B / 5)| := by ring_nf
    _ ≤ |P - B * z| + |B * z - B / 5| := abs_add_le _ _
    _ ≤ |B| / 2 ^ 52 + tiny := by linarith [abs_nonneg B]

/-- The shift is close to the exact one, and bounded by a number that is little more than a
quarter of the base. -/
theorem shift_spec (hB : base.Is B) (hR : random.Is R) (h0 : 0 ≤ R) (h1 : R < 1) :
    ∃ J, ((base.mul (.ofDecimal false 2 (-1))).mul
        (((Binary64.ofInt 2).mul random).sub (.ofInt 1))).Is J ∧
      |J - B / 5 * (2 * R - 1)| ≤ |B| / 2 ^ 51 + 3 * tiny ∧
      ∃ y P, Binary64.Is y P ∧ |J| ≤ P ∧ P ≤ |B| / 4 + tiny := by
  obtain ⟨T, hT, hT1, hTnear⟩ := turn_spec hR h0 h1
  obtain ⟨P, hP, hPnear⟩ := share_spec hB
  obtain ⟨y, hy⟩ := hP.abs
  have hBpos := abs_nonneg B
  have hPle : |P| ≤ |B| / 4 + tiny := by
    calc |P| = |(P - B / 5) + B / 5| := by ring_nf
      _ ≤ |P - B / 5| + |B / 5| := abs_add_le _ _
      _ ≤ |B| / 4 + tiny := by rw [abs_div, abs_of_pos (by norm_num : (0 : ℚ) < 5)]; linarith
  have hPT : |P * T| ≤ |P| := by
    rw [abs_mul]
    exact mul_le_of_le_one_right (abs_nonneg P) hT1
  obtain ⟨J, hJ, hclosest, hJle⟩ := (nearest_mul hP hT).bounded hy hPT
  refine ⟨J, hJ, ?_, y, |P|, hy, hJle, hPle⟩
  have hnear : |J - P * T| ≤ |P| / 2 ^ 53 + tiny := by linarith [hclosest.near]
  have hshare : |P * T - B / 5 * T| ≤ |B| / 2 ^ 52 + tiny := by
    rw [← sub_mul, abs_mul]
    exact (mul_le_of_le_one_right (abs_nonneg _) hT1).trans hPnear
  have hturn : |B / 5 * T - B / 5 * (2 * R - 1)| ≤ |B| / 5 / 2 ^ 51 := by
    rw [← mul_sub, abs_mul, abs_div, abs_of_pos (by norm_num : (0 : ℚ) < 5)]
    calc |B| / 5 * |T - (2 * R - 1)| ≤ |B| / 5 * (1 / 2 ^ 51) := by gcongr
      _ = |B| / 5 / 2 ^ 51 := by ring
  calc |J - B / 5 * (2 * R - 1)|
      = |(J - P * T) + ((P * T - B / 5 * T) + (B / 5 * T - B / 5 * (2 * R - 1)))| := by ring_nf
    _ ≤ |J - P * T| + (|P * T - B / 5 * T| + |B / 5 * T - B / 5 * (2 * R - 1)|) :=
        (abs_add_le _ _).trans (add_le_add_right (abs_add_le _ _) _)
    _ ≤ |B| / 2 ^ 51 + 3 * tiny := by linarith [tiny_pos]

/-- A number that is little more than a quarter of a base is no larger than the base. -/
theorem le_of_le_quarter {y : Binary64} {P : ℚ} (hB : base.Is B) (hP : y.Is P) (hP0 : 0 ≤ P)
    (hle : P ≤ |B| / 4 + tiny) : P ≤ |B| := by
  have htiny := tiny_pos
  rcases eq_or_ne B 0 with rfl | hne
  · -- Below the last place of all there is nothing but zero.
    by_contra hpos
    rw [abs_zero] at hle hpos
    have hleast := hP.least_le (by linarith)
    rw [abs_of_nonneg hP0] at hleast
    linarith
  · have hleast := hB.least_le hne
    linarith

/-- A base up to the place 1023 and its shift are no more than the largest number. -/
theorem add_le_top {J : ℚ} (hB : B ≤ place 1023) (hJ : J ≤ B / 4 + tiny) :
    B + J ≤ (2 ^ 53 - 1) * place 971 := by
  have htiny : tiny ≤ place 971 := place_mono (by norm_num)
  have h52 : place 52 = 2 ^ 52 := place_natCast 52
  have hplace : place 1023 = place 52 * place 971 := place_add 52 971
  rw [hplace, h52] at hB
  linarith [place_pos 971]

/-- **A base that is not negative is shifted to a sane pause.** -/
theorem jittered_spec (hB : base.Is B) (hB0 : 0 ≤ B) (hR : random.Is R) (h0 : 0 ≤ R)
    (h1 : R < 1) : Sane B R (jittered base random) := by
  obtain ⟨hnonneg, hwithin⟩ := shifted_within hB0 h0 h1
  refine ⟨hnonneg, hwithin, ?_⟩
  obtain ⟨J, hJ, hJnear, y, P, hP, hJP, hPle⟩ := shift_spec hB hR h0 h1
  have hPB := le_of_le_quarter hB hP ((abs_nonneg J).trans hJP) hPle
  rw [abs_of_nonneg hB0] at hJnear hPle hPB
  obtain ⟨hJlow, hJhigh⟩ := abs_le.1 hJP
  have hsum : Nearest (B + J) (jittered base random) := nearest_add hB hJ
  have hsum0 : 0 ≤ B + J := by linarith
  generalize jittered base random = seconds at hsum
  cases hsum with
  | @finite _ v hv hclosest =>
    refine .inl ⟨v, hv, hclosest.nonneg hsum0, ?_⟩
    have hnear := hclosest.near
    rw [abs_of_nonneg hsum0] at hnear
    have hplace : place (-1072) = tiny * 8 := by
      rw [show (-1072 : Int) = -1075 + 3 by norm_num, place_add]
      norm_num [place, tiny]
    calc |v - shifted B R| = |(v - (B + J)) + (J - B / 5 * (2 * R - 1))| := by
          rw [shifted]
          ring_nf
      _ ≤ |v - (B + J)| + |J - B / 5 * (2 * R - 1)| := abs_add_le _ _
      _ ≤ B / 2 ^ 50 + place (-1072) := by linarith [tiny_pos]
  | above hover =>
    refine .inr ⟨?_, rfl⟩
    by_contra hsmall
    have htop := add_le_top (not_lt.1 hsmall) (hJhigh.trans hPle)
    exact absurd (hover _ _ is_top) (not_lt.2 htop)
  | below hunder =>
    have hlt := hunder _ _ (is_zero false)
    linarith

/-- A base that is negative is shifted to a negative pause. -/
theorem jittered_of_neg (hB : base.Is B) (hB0 : B < 0) (hR : random.Is R) (h0 : 0 ≤ R)
    (h1 : R < 1) {v : ℚ} (hv : (jittered base random).Is v) : v < 0 := by
  obtain ⟨J, hJ, -, y, P, hP, hJP, hPle⟩ := shift_spec hB hR h0 h1
  obtain ⟨b, hb⟩ := hB.abs
  have hleast := hB.least_le hB0.ne
  have htiny := tiny_pos
  have hgap := hP.gap hb (by linarith)
  rw [place_least, abs_of_neg hB0] at hgap
  obtain ⟨hJlow, hJhigh⟩ := abs_le.1 hJP
  have hsum : Nearest (B + J) (jittered base random) := nearest_add hB hJ
  generalize jittered base random = seconds at hsum hv
  cases hsum with
  | @finite _ w hw hclosest =>
    have hle := hclosest.le is_least.neg (by rw [place_least]; linarith)
    rw [hv.unique hw]
    rw [place_least] at hle
    linarith
  | above _ | below _ =>
    obtain ⟨s, m, e, heq, -⟩ := hv
    cases heq

/-- No shift makes a number of what is not finite. -/
theorem jittered_of_not_finite (hbase : base = .nan ∨ ∃ s, base = .infinite s) {v : ℚ} :
    ¬ (jittered base random).Is v := by
  rintro ⟨s, m, e, heq, -⟩
  unfold jittered at heq
  generalize (base.mul (.ofDecimal false 2 (-1))).mul _ = shift at heq
  rcases hbase with rfl | ⟨t, rfl⟩
  · cases heq
  · cases shift with
    | nan => cases heq
    | infinite r =>
      unfold add at heq
      dsimp only at heq
      split at heq <;> cases heq
    | finite _ _ _ => cases heq

end

/-! ## §2. Bases. -/

/-- A response with status 429 asks for a pause, and what it says is read as a number. -/
def Outcome.Asks (outcome : Outcome) (x : Binary64) : Prop :=
  ∃ r text, outcome = .response r ∧ r.status = 429 ∧ r.header? "Retry-After" = some text ∧
    readDecimal? text.toList = some x

/-- **The base of a pause**: the number that is asked for, if it is finite and not negative; and
where none is asked for, the next of the client's delays, the last of which serves for all
that follow. -/
inductive Client.Base (c : Client) (index : Nat) (outcome : Outcome) : ℚ → Prop
  | asked {x : Binary64} {B : ℚ} (asks : outcome.Asks x) (value : x.Is B) (usable : 0 ≤ B) :
      Client.Base c index outcome B
  | listed {delay : Binary64} {B : ℚ} (silent : ∀ x, ¬ outcome.Asks x)
      (next : c.delays[min index (c.delays.length - 1)]? = some delay) (value : delay.Is B) :
      Client.Base c index outcome B

/-- The number that is asked for can be no pause: it is negative, infinite or not a number. -/
def Outcome.AsksUnusable (outcome : Outcome) : Prop :=
  ∃ x, outcome.Asks x ∧ ∀ B, x.Is B → B < 0

section

variable {c : Client} {endpoint : String} {params : Json} {o : Nat → Outcome} {outcome : Outcome}
  {x y random : Binary64} {B R : ℚ} {index : Nat}

/-- What a response asks for is what is read in its header. -/
theorem asks_response_iff {r : Response} :
    (Outcome.response r).Asks x ↔ askedPause? r = some x := by
  have hasks : (Outcome.response r).Asks x ↔ r.status = 429 ∧
      ∃ text, r.header? "Retry-After" = some text ∧ readDecimal? text.toList = some x := by
    constructor
    · rintro ⟨r', text, heq, hstatus, hheader, hread⟩
      cases heq
      exact ⟨hstatus, text, hheader, hread⟩
    · rintro ⟨hstatus, text, hheader, hread⟩
      exact ⟨r, text, rfl, hstatus, hheader, hread⟩
  rw [hasks, askedPause?, Option.ite_none_right_eq_some, Option.bind_eq_some_iff, beq_iff_eq]

theorem Outcome.asks_iff : outcome.Asks x ↔ outcome.response?.bind askedPause? = some x := by
  cases outcome with
  | response r => exact asks_response_iff
  | unreachable reason | refused reason | foreign reason =>
    constructor
    · rintro ⟨r, text, heq, -⟩
      cases heq
    · intro h
      cases h

/-- A number that is asked for is the base, whatever it is. -/
theorem basePause_of_asks (h : outcome.Asks x) : c.basePause index outcome.response? = x := by
  rw [Client.basePause, Outcome.asks_iff.1 h, Option.getD_some]

theorem basePause_of_silent (h : ∀ x, ¬ outcome.Asks x) :
    c.basePause index outcome.response?
      = c.delays.getD (min index (c.delays.length - 1)) (.ofInt 0) := by
  have hnone : outcome.response?.bind askedPause? = none :=
    Option.eq_none_iff_forall_ne_some.2 fun x hx => h x (Outcome.asks_iff.2 hx)
  rw [Client.basePause, hnone, Option.getD_none]

theorem Outcome.Asks.unique (hx : outcome.Asks x) (hy : outcome.Asks y) : x = y :=
  Option.some.inj ((Outcome.asks_iff.1 hx).symm.trans (Outcome.asks_iff.1 hy))

theorem Client.Base.is_basePause (h : c.Base index outcome B) :
    (c.basePause index outcome.response?).Is B := by
  cases h with
  | asked asks value _ => rwa [basePause_of_asks asks]
  | listed silent next value =>
    rw [basePause_of_silent silent, List.getD_eq_getElem?_getD, next]
    exact value

theorem Client.Base.nonneg (hpositive : ∀ delay ∈ c.delays, ∃ v, delay.Is v ∧ 0 < v)
    (h : c.Base index outcome B) : 0 ≤ B := by
  cases h with
  | asked _ _ usable => exact usable
  | listed _ next value =>
    obtain ⟨v, hv, hpos⟩ := hpositive _ (List.mem_of_getElem? next)
    rw [value.unique hv]
    exact hpos.le

/-- Either a pause has a base, or the number that is asked for is unusable. -/
theorem asksUnusable_iff (hdelays : c.delays ≠ [])
    (hpositive : ∀ delay ∈ c.delays, ∃ v, delay.Is v ∧ 0 < v) :
    outcome.AsksUnusable ↔ ¬ ∃ B, c.Base index outcome B := by
  constructor
  · rintro ⟨x, hasks, hneg⟩ ⟨B, hbase⟩
    cases hbase with
    | asked asks value usable =>
      rw [hasks.unique asks] at hneg
      exact not_le.2 (hneg B value) usable
    | listed silent _ _ => exact silent x hasks
  · intro hnone
    by_cases hasks : ∃ x, outcome.Asks x
    · obtain ⟨x, hasks⟩ := hasks
      refine ⟨x, hasks, fun B hB => ?_⟩
      by_contra hge
      exact hnone ⟨B, .asked hasks hB (not_lt.1 hge)⟩
    · have hlength := List.length_pos_of_ne_nil hdelays
      have hnext : min index (c.delays.length - 1) < c.delays.length := by omega
      obtain ⟨v, hv, -⟩ := hpositive _ (List.getElem_mem hnext)
      refine absurd ⟨v, .listed (fun x hx => hasks ⟨x, hx⟩) ?_ hv⟩ hnone
      exact List.getElem?_eq_getElem hnext

/-! ## §3. Runs. -/

/-- The random numbers among some events. -/
def drawsIn (tr : List Event) : List Binary64 := tr.filterMap fun
  | ⟨.draw, random⟩ => some random
  | _ => none

/-- Each pause is that of its outcome, shifted by the number drawn for it. -/
theorem Tries.pause_eq {i k j : Nat} {tr : List Event} {seconds : Binary64}
    (h : Tries c endpoint params o i k tr) (hj : (pausesIn tr)[j]? = some seconds) :
    ∃ random, (drawsIn tr)[j]? = some random ∧
      seconds = jittered (c.basePause (i + j) (o (i + j)).response?) random := by
  induction h generalizing j with
  | last k => simp [pausesIn] at hj
  | @again i k tr random _ _ ih =>
    cases j with
    | zero =>
      obtain rfl := Option.some.inj hj
      exact ⟨random, rfl, rfl⟩
    | succ j =>
      obtain ⟨random', hdraw, hseconds⟩ := ih hj
      exact ⟨random', hdraw, by rw [hseconds, Nat.add_right_comm, Nat.add_assoc]⟩

/-- **Every pause of every run is sane**, but for those before which the server asks for an
unusable number.  The pause after attempt `i` has a base, the usable number that is asked for
or the client's delay, and is sane for it and for the number drawn; or an unusable number is
asked for, and the pause is negative, infinite or not a number. -/
theorem pauses_sane (hdelays : c.delays ≠ [])
    (hpositive : ∀ delay ∈ c.delays, ∃ v, delay.Is v ∧ 0 < v) {tr : List Event}
    {answer : Except Failure Json} {t : Nat}
    (hrun : Dialogue.Ends (meeting o) (c.request endpoint params).run 0 tr answer t)
    (hdraws : ∀ random ∈ drawsIn tr, ∃ R, random.Is R ∧ 0 ≤ R ∧ R < 1) :
    ∀ i seconds, (pausesIn tr)[i]? = some seconds →
      (∀ B, c.Base i (o i) B → ∃ random R, (drawsIn tr)[i]? = some random ∧ random.Is R ∧
        Sane B R seconds) ∧
      ((o i).AsksUnusable ↔ ¬ ∃ B, c.Base i (o i) B) ∧
      ((o i).AsksUnusable → ∀ v, seconds.Is v → v < 0) := by
  intro i seconds hi
  have hpause : ∃ random, (drawsIn tr)[i]? = some random ∧
      seconds = jittered (c.basePause i (o i).response?) random := by
    rcases Nat.eq_zero_or_pos (c.maxRetries + 1).toNat with hnone | hsome
    · unfold Client.request at hrun
      rw [hnone] at hrun
      obtain ⟨rfl, -, -⟩ := Dialogue.Ends.of_pure hrun
      cases hi
    · obtain ⟨k, htries, -⟩ := attempts_ends hsome hrun
      simpa using htries.pause_eq hi
  obtain ⟨random, hdraw, rfl⟩ := hpause
  obtain ⟨R, hR, h0, h1⟩ := hdraws random (List.mem_of_getElem? hdraw)
  refine ⟨fun B hB => ⟨random, R, hdraw, hR, ?_⟩, asksUnusable_iff hdelays hpositive, ?_⟩
  · exact jittered_spec hB.is_basePause (hB.nonneg hpositive) hR h0 h1
  · rintro ⟨x, hasks, hneg⟩ v hv
    rw [basePause_of_asks hasks] at hv
    obtain ⟨r, text, -, -, -, hread⟩ := hasks
    rcases cases_of_readDecimal? hread with hnan | hinfinite | ⟨B, hB⟩
    · exact absurd hv (jittered_of_not_finite (.inl hnan))
    · exact absurd hv (jittered_of_not_finite (.inr hinfinite))
    · exact jittered_of_neg hB (hneg B hB) hR h0 h1 hv

end

namespace Sample

/-- A server that asks for a pause, is out of reach then, and answers at last. -/
def asking (text : String) : Nat → Outcome
  | 0 => .response
      { status := 429, reason := "Busy", headers := [("retry-after", text)], body := none }
  | 1 => .unreachable "timed out"
  | _ => .response { status := 200, reason := "OK", headers := [], body := some (.list []) }

/-- A request to it. -/
abbrev asked : Dialogue (Except Failure Json) := (client.request "mailboxes" .null).run

theorem ends_asked (text : String) : Dialogue.Ends (meeting (asking text)) asked 0
    (asked.trace (meet (asking text)) 0) (asked.run (meet (asking text)) 0).1
    (asked.run (meet (asking text)) 0).2 :=
  Dialogue.ends_run (meeting_meet (asking text)) asked 0

theorem delays_positive : ∀ delay ∈ client.delays, ∃ v, delay.Is v ∧ 0 < v := by
  have hfour : (Binary64.ofInt 4).Is 4 :=
    ⟨false, 2 ^ 52, -50, by decide +kernel, by norm_num, by norm_num, by norm_num,
      by norm_num [signed, place]⟩
  intro delay hdelay
  simp only [client, List.mem_cons, List.not_mem_nil, or_false] at hdelay
  rcases hdelay with rfl | rfl | rfl
  · exact ⟨1, is_one, by norm_num⟩
  · exact ⟨2, is_two, by norm_num⟩
  · exact ⟨4, hfour, by norm_num⟩

/-- The numbers drawn are zeros. -/
theorem draws_zero {tr : List Event} (h : ∀ random ∈ drawsIn tr, random = zero false) :
    ∀ random ∈ drawsIn tr, ∃ R, random.Is R ∧ 0 ≤ R ∧ R < 1 := by
  intro random hmem
  rw [h random hmem]
  exact ⟨0, is_zero false, le_rfl, by norm_num⟩

end Sample

open Sample in
/-- The server asks for a second and a half; later the second of the client's delays counts. -/
theorem pauses_sane_sample :
    client.delays ≠ [] ∧ (∀ delay ∈ client.delays, ∃ v, delay.Is v ∧ 0 < v) ∧ ∃ tr x t first second,
      Dialogue.Ends (meeting (asking " +1_5e-1")) asked 0 tr x t ∧
        (∀ random ∈ drawsIn tr, ∃ R, random.Is R ∧ 0 ≤ R ∧ R < 1) ∧
        pausesIn tr = [first, second] ∧ (∃ R, Sane (3 / 2) R first) ∧ ∃ R, Sane 2 R second := by
  have hdelays : client.delays ≠ [] := by decide
  have hrun := ends_asked " +1_5e-1"
  have hdraws := draws_zero (by decide +kernel :
    ∀ random ∈ drawsIn (asked.trace (meet (asking " +1_5e-1")) 0), random = zero false)
  obtain ⟨first, second, hpauses⟩ : ∃ first second,
      pausesIn (asked.trace (meet (asking " +1_5e-1")) 0) = [first, second] := ⟨_, _, rfl⟩
  have hall := pauses_sane hdelays delays_positive hrun hdraws
  have hfirst : client.Base 0 (asking " +1_5e-1" 0) (3 / 2) := by
    refine .asked ⟨_, _, rfl, rfl, rfl, (by decide +kernel :
      readDecimal? " +1_5e-1".toList = some (.finite false (3 * 2 ^ 51) (-52)))⟩ ?_ (by norm_num)
    exact ⟨false, 3 * 2 ^ 51, -52, rfl, by norm_num, by norm_num, by norm_num,
      by norm_num [signed, place]⟩
  have hsecond : client.Base 1 (asking " +1_5e-1" 1) 2 := by
    refine .listed ?_ rfl is_two
    rintro x ⟨r, text, heq, -⟩
    cases heq
  obtain ⟨-, R, -, -, hsane⟩ := (hall 0 first (by rw [hpauses]; rfl)).1 _ hfirst
  obtain ⟨-, R', -, -, hsane'⟩ := (hall 1 second (by rw [hpauses]; rfl)).1 _ hsecond
  exact ⟨hdelays, delays_positive, _, _, _, first, second, hrun, hdraws, hpauses, ⟨R, hsane⟩,
    R', hsane'⟩

open Sample in
/-- **A server that asks for less than nothing gets it**: a pause of -4 seconds. -/
theorem negative_pause :
    client.delays ≠ [] ∧ (∀ delay ∈ client.delays, ∃ v, delay.Is v ∧ 0 < v) ∧ ∃ tr x t seconds,
      Dialogue.Ends (meeting (asking "-5")) asked 0 tr x t ∧
        (∀ random ∈ drawsIn tr, ∃ R, random.Is R ∧ 0 ≤ R ∧ R < 1) ∧
        seconds ∈ pausesIn tr ∧ seconds.Is (-4) := by
  have hrun := ends_asked "-5"
  have hdraws := draws_zero (by decide +kernel :
    ∀ random ∈ drawsIn (asked.trace (meet (asking "-5")) 0), random = zero false)
  refine ⟨by decide, delays_positive, _, _, _, .finite true (2 ^ 52) (-50), hrun, hdraws,
    by decide +kernel, ?_⟩
  exact ⟨true, 2 ^ 52, -50, rfl, by norm_num, by norm_num, by norm_num, by norm_num [signed, place]⟩

end Mailroom.Directory
