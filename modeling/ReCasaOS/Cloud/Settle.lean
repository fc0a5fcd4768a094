/-
# The settle loop ends, with evidence

`settleCloudMountState` (`service/storage.go`) takes samples until two in a row show what is expected,
one shows an unsafe topology, or the time is up. The clock here keeps a law: it does not go back, and a
`Wait` that returns nil has advanced it by at least the delay. A delay that is cut short ends at the
deadline and every other one is a whole interval, so `fuel` for ⌈timeout / interval⌉ samples is enough
(`settle_ends_with_evidence`).
-/
import ReCasaOS.Cloud.Requests

namespace ReCasaOS.Cloud

open Lib List Option

section

variable {ε : Type} {env : CloudEnvironment ε} {kinds : ErrorKinds ε} {settings : StorageSettings}
variable {mountPoint remote : Bytes} {expected : Bool} {deadline : Int} {count : Nat}
variable {h t : CloudHistory ε} {samples : List (CloudMountObservation ε)}

/-! ## 1. Clock, samples and evidence -/

structure Clock (env : CloudEnvironment ε) where
  time : CloudHistory ε → Int
  now : ∀ h, env h .now = time h
  mono : ∀ h e, time h ≤ time (h ++ [e])
  wait : ∀ h delay, env h (.wait delay) = none → time h + delay ≤ time (h ++ [⟨.wait delay, none⟩])

/-- `⌈timeout / interval⌉`. -/
def StorageSettings.maxSamples (s : StorageSettings) : Int := (s.timeout + s.interval - 1) / s.interval

variable (env kinds mountPoint remote deadline h) in
/-- Since `h` nothing was asked but these samples, the newest first, and the clock between them, and in
front of every sample the clock showed a time before the deadline. -/
inductive Sampled : List (CloudMountObservation ε) → CloudHistory ε → Prop
  | start {t : CloudHistory ε} (hclock : Grows (fun q => q.isClock) h t) : Sampled [] t
  | sample {samples : List (CloudMountObservation ε)} {t u v : CloudHistory ε} {now : Int}
      {observation : CloudMountObservation ε} (hsamples : Sampled samples t) (hnow : now < deadline)
      (hrun : observeCloudMountState env kinds mountPoint remote (t ++ [⟨.now,
        now⟩]) = (.ok observation, u))
      (hclock : Grows (fun q => q.isClock) u v) : Sampled (observation :: samples) v

/-- The last two samples show what is expected. -/
def Twice (expected : Bool) : List (CloudMountObservation ε) → Prop
  | b :: a :: _ => a.Shows expected ∧ b.Shows expected
  | _ => False

/-- What a settlement says of its samples. -/
structure Evidence (expected : Bool) (samples : List (CloudMountObservation ε))
    (result : CloudMountSettlement ε) : Prop where
  count : result.samples = samples.length
  last : result.last = samples.headD .none
  converged : result.converged = true ↔ Twice expected samples
  safe : ∀ o ∈ samples.tail, o.unsafeTopology = none
  deadline : result.deadlineErr.isSome = true ↔
    result.converged = false ∧ result.last.unsafeTopology = none

/-- What the loop knows when it goes on. -/
structure Pending (expected : Bool) (samples : List (CloudMountObservation ε)) (count : Nat) : Prop where
  safe : ∀ o ∈ samples, o.unsafeTopology = none
  once : count = if samples.head?.any (·.Shows expected) then 1 else 0
  less_twice : ¬ Twice expected samples

/-! ## 2. Rounds -/

lemma Sampled.grows (hs : Sampled env kinds mountPoint remote deadline h samples t)
    {u : CloudHistory ε} (hu : Grows (fun q => q.isClock) t u) :
    Sampled env kinds mountPoint remote deadline h samples u := by
  cases hs with
  | start hclock => exact .start (hclock.trans hu)
  | sample hsamples hnow hrun hclock => exact .sample hsamples hnow hrun (hclock.trans hu)

lemma twice_cons {o : CloudMountObservation ε} (hp : Pending expected samples count) :
    Twice expected (o :: samples) ↔ 2 ≤ if o.Shows expected then count + 1 else 0 := by
  rw [hp.once]
  cases samples with
  | nil => cases ho : o.Shows expected <;> simp [Twice]
  | cons a samples =>
    cases ha : a.Shows expected <;> cases ho : o.Shows expected <;> simp [Twice, ha, ho]

lemma Pending.next {o : CloudMountObservation ε} (hp : Pending expected samples count)
    (hsafe : o.unsafeTopology = none) (hless : ¬ 2 ≤ if o.Shows expected then count + 1 else 0) :
    Pending expected (o :: samples) (if o.Shows expected then count + 1 else 0) := by
  refine ⟨forall_mem_cons.mpr ⟨hsafe, hp.safe⟩, ?_, mt (twice_cons hp).mp hless⟩
  split at hless <;> simp_all

lemma Pending.evidence (hp : Pending expected samples count) (err : CloudError ε) :
    Evidence expected samples ⟨false, samples.length, samples.headD .none, some err⟩ := by
  refine ⟨rfl, rfl, by simpa using hp.less_twice, fun o ho => hp.safe o (mem_of_mem_tail ho), ?_⟩
  have hla : (samples.headD .none).unsafeTopology = none := by
    cases samples with
    | nil => rfl
    | cons o samples => exact hp.safe o (.head _)
  exact ⟨fun _ => ⟨rfl, hla⟩, fun _ => rfl⟩

/-- A sample takes no time back, and what it shows is not unsafe. -/
lemma observe_run (clock : Clock env) (expected : Bool) (h : CloudHistory ε) :
    ∃ o t, observeCloudMountState env kinds mountPoint remote h = (.ok o, t) ∧
      (o.Shows expected → o.unsafeTopology = none) ∧ clock.time h ≤ clock.time t := by
  refine ⟨_, _, rfl, fun hshows => ?_, ?_⟩
  · simp only [CloudMountObservation.Shows, Bool.and_eq_true, isNone_iff_eq_none] at hshows
    obtain ⟨_, _, _, -, -, -, -, -, heq⟩ := listErr_eq_none hshows.1.1.2
    rw [heq]
  · exact ((clock.mono _ _).trans (clock.mono _ _)).trans (clock.mono _ _)

/-- The loop goes on after an interval, or when the time is up. -/
lemma await_ends (clock : Clock env) (h : CloudHistory ε) :
    (awaitNextSample env settings deadline).Ends h (fun stop t => Grows (fun q => q.isClock) h t ∧
        (stop = none → deadline ≤ clock.time t ∨ clock.time h + settings.interval ≤ clock.time t))
      fun _ _ => False := by
  have htime : (awaitNextSample env settings deadline).Ends h (fun stop t => stop = none →
        deadline ≤ clock.time t ∨ clock.time h + settings.interval ≤ clock.time t) fun _ _ => False := by
    refine .seq (.of_ok rfl ?_)
    have hasked := clock.mono h ⟨.contextErr, env h .contextErr⟩
    generalize h ++ [⟨.contextErr, env h .contextErr⟩] = u at hasked
    cases env h .contextErr with
    | some err => exact .pure fun hno => nomatch hno
    | none =>
      refine .seq (.of_ok rfl ?_)
      have hrd := clock.mono u ⟨.now, env u .now⟩
      generalize hv : u ++ [⟨.now, env u .now⟩] = v at hrd
      rw [clock.now]
      split
      · exact .pure fun hno => nomatch hno
      · refine .seq (.of_ok rfl (.pure fun hno => ?_))
        have hnil := map_eq_none_iff.mp hno
        have hwait := clock.wait _ _ hnil
        rw [hnil]
        omega
  exact (htime.and (awaitNextSample_asks deadline h)).mono (fun _ _ hu => ⟨hu.2, hu.1⟩) fun _ _ hu => hu.1

lemma StorageSettings.interval_pos (s : StorageSettings) : 0 < s.interval := by
  unfold StorageSettings.interval StorageSettings.timeout
  split <;> split <;> omega

/-! ## 3. The loop -/

lemma settleLoop_evidence (clock : Clock env) {h0 : CloudHistory ε} :
    ∀ (fuel count : Nat) (samples : List (CloudMountObservation ε)) (h : CloudHistory ε),
      Pending expected samples count →
      Sampled env kinds mountPoint remote deadline h0 samples h →
      (deadline ≤ clock.time h ∨
        deadline - settings.timeout + samples.length * settings.interval ≤ clock.time h) →
      (samples.length : Int) ≤ settings.maxSamples → settings.maxSamples < fuel + samples.length →
      (settleLoop env kinds settings mountPoint remote expected deadline fuel count samples.length
        (samples.headD .none)).Ends h
        (fun result t => ∃ all, Sampled env kinds mountPoint remote deadline h0 all t ∧
          (all.length : Int) ≤ settings.maxSamples ∧ Evidence expected all result)
        fun _ _ => False
  | 0, count, samples, h, _, _, _, hmax, hfuel => by omega
  | fuel + 1, count, samples, h, hp, hs, htime, hmax, hfuel => by
    refine .seq (.of_ok rfl ?_)
    rw [clock.now]
    split
    · exact .pure ⟨samples, hs.grows (.single _ rfl), hmax, hp.evidence _⟩
    obtain ⟨o, t, hrun, hunsafe, hlater⟩ := @observe_run ε env kinds mountPoint remote clock expected
      (h ++ [⟨.now, clock.time h⟩])
    refine .seq (.of_ok hrun ?_)
    have hs' : ∀ u, Grows (fun q => q.isClock) t u →
        Sampled env kinds mountPoint remote deadline h0 (o :: samples) u :=
      fun u hu => .sample hs (by omega) hrun hu
    have hmax' : ((o :: samples).length : Int) ≤ settings.maxSamples := by
      have hpos := settings.interval_pos
      refine Int.le_ediv_of_mul_le hpos ?_
      rw [length_cons, Nat.cast_succ, add_mul]
      omega
    have htwice := @twice_cons ε expected count samples o hp
    by_cases hbad : o.unsafeTopology.isSome
    · rw [if_pos hbad]
      have hne : o.unsafeTopology ≠ none := isSome_iff_ne_none.mp hbad
      have hshows : o.Shows expected ≠ true := mt hunsafe hne
      exact .pure ⟨o :: samples, hs' t (.refl t), hmax', rfl, rfl, by simp [htwice, hshows], hp.safe,
        by simp [hne]⟩
    rw [if_neg hbad]
    rw [not_isSome_iff_eq_none] at hbad
    by_cases htwo : 2 ≤ if o.Shows expected then count + 1 else 0
    · rw [if_pos htwo]
      exact .pure ⟨o :: samples, hs' t (.refl t), hmax', rfl, rfl, by simpa using htwice.mpr htwo,
        hp.safe, by simp⟩
    · rw [if_neg htwo]
      have hp' := hp.next hbad htwo
      refine .bind (await_ends clock t) fun stop u ⟨hu, hnx⟩ => ?_
      cases stop with
      | some err => exact .pure ⟨o :: samples, hs' u hu, hmax', hp'.evidence err⟩
      | none =>
        refine settleLoop_evidence clock fuel _ (o :: samples) u hp' (hs' u hu) ?_ hmax' ?_
        · rw [length_cons, Nat.cast_succ, add_mul]
          have hnow := clock.mono h ⟨.now, clock.time h⟩
          have hpass := hnx rfl
          omega
        · rw [length_cons]
          omega

/-- **The settle loop ends, with evidence.** With such a clock and enough `fuel` it returns, after at
most ⌈timeout / interval⌉ samples, each started before the deadline. It has converged exactly when the
last two samples show what is expected; no sample but the last has an unsafe topology; and there is a
deadline error unless it has converged or the last topology is unsafe. -/
theorem settle_ends_with_evidence (clock : Clock env) (kinds : ErrorKinds ε) (settings : StorageSettings)
    (mountPoint remote : Bytes) (expected : Bool) (h : CloudHistory ε) (fuel : Nat)
    (hfuel : settings.maxSamples < fuel) :
    ∃ result t samples,
      settleCloudMountState env kinds settings fuel mountPoint remote expected h = (.ok result, t) ∧
      Sampled env kinds mountPoint remote (clock.time h + settings.timeout) h samples t ∧
      (samples.length : Int) ≤ settings.maxSamples ∧ Evidence expected samples result := by
  have hpos := settings.interval_pos
  have hpend : Pending expected ([] : List (CloudMountObservation ε)) 0 :=
    ⟨by simp, by simp, id⟩
  have hmax : (0 : Int) ≤ settings.maxSamples := by
    refine Int.ediv_nonneg ?_ hpos.le
    have : settings.interval ≤ settings.timeout := min_le_right _ _
    omega
  have hends : (settleCloudMountState env kinds settings fuel mountPoint remote expected).Ends h
      (fun result t => ∃ all,
        Sampled env kinds mountPoint remote (clock.time h + settings.timeout) h all t ∧
        (all.length : Int) ≤ settings.maxSamples ∧ Evidence expected all result) fun _ _ => False := by
    refine .seq (.of_ok rfl ?_)
    rw [clock.now]
    refine settleLoop_evidence clock fuel 0 [] _ hpend (.start (.single _ rfl)) (.inr ?_) hmax (by simpa)
    have := clock.mono h ⟨.now, clock.time h⟩
    simpa
  obtain ⟨result, t, hrun, samples, hall⟩ := hends.returns
  exact ⟨result, t, samples, hrun, hall⟩

end

/-- The waits so far. -/
def waited (h : CloudHistory Unit) : Int := (h.map fun e =>
  match e with
  | ⟨.wait delay, _⟩ => max delay 0
  | _ => 0).sum

/-- The sample with a clock on which time passes only in `Wait`. -/
def idleEnvironment : CloudEnvironment Unit := fun h q =>
  match q with
  | .now => waited h
  | q => sampleEnvironment h q

def idleClock : Clock idleEnvironment where
  time := waited
  now _ := rfl
  mono h e := by
    simp only [waited, List.map_append, List.sum_append, List.map_cons, List.map_nil, List.sum_singleton]
    split <;> omega
  wait h delay _ := by simp [waited]

/-- Two samples of a mounted storage. -/
theorem idle_settles : ∃ result t samples,
    settleCloudMountState idleEnvironment ⟨fun _ => false, fun _ => false⟩ ⟨2, 1⟩ 3 samplePoint [97] true []
      = (.ok result, t) ∧ (samples.length : Int) ≤ 2 ∧ Evidence true samples result := by
  obtain ⟨result, t, samples, hrun, -, hmax, hev⟩ := settle_ends_with_evidence idleClock
    ⟨fun _ => false, fun _ => false⟩ ⟨2, 1⟩ samplePoint [97] true [] 3 (by decide)
  exact ⟨result, t, samples, hrun, hmax, hev⟩

end ReCasaOS.Cloud
