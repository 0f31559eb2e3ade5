import SensorSystem.Host.Time.ClockObservation

/-! `time.rs`: the online model of one node clock. It keeps two anchors and maps node times
through the line between them. -/

namespace SensorSystem.Host

open UInt64

structure ClockModelPolicy where
  maxObservationUncertaintyUs : UInt64
  minimumAnchorSeparationUs : UInt64
  maximumDriftPpm : UInt32
  maximumHoldoverUs : UInt64

inductive ClockModelError where
  | invalidPolicy
  | zeroBootEpoch
  | bootEpochMismatch
  | observationTooUncertain
  | nonMonotonicObservation
  | driftOutOfRange
  | modelNotLocked
  | holdoverExpired
  | arithmeticOverflow
deriving DecidableEq

def ClockModelPolicy.validate (policy : ClockModelPolicy) :
    Except ClockModelError ClockModelPolicy :=
  if policy.maxObservationUncertaintyUs = 0 ∨ policy.minimumAnchorSeparationUs = 0 ∨
      policy.maximumDriftPpm = 0 ∨ policy.maximumHoldoverUs = 0 then .error .invalidPolicy
  else .ok policy

structure ClockAnchor where
  nodeUs : UInt64
  hostUs : UInt64
  uncertaintyUs : UInt64
deriving DecidableEq

/-- `From<ClockObservation>`. -/
def ClockAnchor.of (observation : ClockObservation) : ClockAnchor :=
  ⟨observation.nodeMidpointUs, observation.hostMidpointUs, observation.uncertaintyUs⟩

inductive ClockModelState where
  | acquiring
  | locked
  | holdover
deriving DecidableEq

structure ClockEstimate where
  hostMonotonicUs : UInt64
  uncertaintyUs : UInt64
  state : ClockModelState
deriving DecidableEq

structure ClockModel where
  bootEpoch : BootEpoch
  policy : ClockModelPolicy
  first : Option ClockAnchor
  second : Option ClockAnchor

/-- The product is `u128` in the source; two factors below `2^64` always fit it, as the
check says. -/
def mulDivCeil (value multiplier divisor : UInt64) : Except ClockModelError UInt64 :=
  let product := value.toNat * multiplier.toNat
  if product ≥ 2 ^ 128 then .error .arithmeticOverflow
  else
    let rounded := (product + (divisor.toNat - 1)) / divisor.toNat
    if rounded ≥ 2 ^ 64 then .error .arithmeticOverflow else .ok (UInt64.ofNat rounded)

def absDiff (left right : UInt64) : UInt64 := if left < right then right - left else left - right

def validateDrift (first second : ClockAnchor) (maximumDriftPpm : UInt32) :
    Except ClockModelError Unit := do
  let nodeDelta := second.nodeUs - first.nodeUs
  let hostDelta := second.hostUs - first.hostUs
  let difference := absDiff nodeDelta hostDelta
  let allowed ← mulDivCeil nodeDelta maximumDriftPpm.toUInt64 1000000
  if difference > allowed then .error .driftOutOfRange else .ok ()

/-- The range of `i128`. -/
def fitsI128 (value : Int) : Prop := -2 ^ 127 ≤ value ∧ value < 2 ^ 127

instance (value : Int) : Decidable (fitsI128 value) := inferInstanceAs (Decidable (_ ∧ _))

def interpolate (first second : ClockAnchor) (nodeUs : UInt64) : Except ClockModelError UInt64 :=
  let nodeDelta : Int := (second.nodeUs - first.nodeUs).toNat
  let hostDelta : Int := (second.hostUs - first.hostUs).toNat
  let relative : Int := nodeUs.toNat - first.nodeUs.toNat
  if ¬ fitsI128 (relative * hostDelta) then .error .arithmeticOverflow
  else
    let mappedDelta := (relative * hostDelta).tdiv nodeDelta
    let mapped := first.hostUs.toNat + mappedDelta
    if ¬ fitsI128 mapped then .error .arithmeticOverflow
    else if mapped < 0 ∨ mapped ≥ 2 ^ 64 then .error .arithmeticOverflow
    else .ok (UInt64.ofNat mapped.toNat)

namespace ClockModel

def new (bootEpoch : BootEpoch) (policy : ClockModelPolicy) : Except ClockModelError ClockModel :=
  if bootEpoch = 0 then .error .zeroBootEpoch
  else do
    let policy ← policy.validate
    .ok ⟨bootEpoch, policy, none, none⟩

def state (model : ClockModel) : ClockModelState :=
  if model.second.isSome then .locked else .acquiring

/-- The answer and the model afterwards. -/
def observe (model : ClockModel) (observation : ClockObservation) :
    Except ClockModelError Unit × ClockModel :=
  if observation.bootEpoch ≠ model.bootEpoch then (.error .bootEpochMismatch, model)
  else
    let candidate := ClockAnchor.of observation
    if candidate.uncertaintyUs > model.policy.maxObservationUncertaintyUs then
      (.error .observationTooUncertain, model)
    else match model.first with
      | none => (.ok (), { model with first := some candidate })
      | some first =>
        let latest := model.second.getD first
        if candidate.nodeUs ≤ latest.nodeUs ∨ candidate.hostUs ≤ latest.hostUs then
          (.error .nonMonotonicObservation, model)
        else if model.second.isNone ∧
            candidate.nodeUs - first.nodeUs < model.policy.minimumAnchorSeparationUs then
          if candidate.uncertaintyUs < first.uncertaintyUs then
            (.ok (), { model with first := some candidate })
          else (.ok (), model)
        else
          let baseline := model.second.getD first
          match validateDrift baseline candidate model.policy.maximumDriftPpm with
          | .error error => (.error error, model)
          | .ok () => (.ok (), { model with first := some baseline, second := some candidate })

/-- How far a node time lies outside the anchors. -/
def outsideUs (first second : ClockAnchor) (nodeUs : UInt64) : UInt64 :=
  if nodeUs < first.nodeUs then first.nodeUs - nodeUs
  else if nodeUs < second.nodeUs then 0 else nodeUs - second.nodeUs

def estimate (model : ClockModel) (nodeUs : UInt64) : Except ClockModelError ClockEstimate :=
  match model.first, model.second with
  | some first, some second =>
    let outside := outsideUs first second nodeUs
    if outside > model.policy.maximumHoldoverUs then .error .holdoverExpired
    else do
      let hostMonotonicUs ← interpolate first second nodeUs
      let driftGrowth ← mulDivCeil outside model.policy.maximumDriftPpm.toUInt64 1000000
      match checkedAdd (max first.uncertaintyUs second.uncertaintyUs) driftGrowth with
      | none => .error .arithmeticOverflow
      | some uncertaintyUs =>
        .ok ⟨hostMonotonicUs, uncertaintyUs, if outside = 0 then .locked else .holdover⟩
  | _, _ => .error .modelNotLocked

/-- The model after a sequence of observations. -/
def observeAll (model : ClockModel) : List ClockObservation → ClockModel
  | [] => model
  | observation :: rest => (model.observe observation).2.observeAll rest

variable {model next : ClockModel} {observation : ClockObservation} {first second : ClockAnchor}

/-- The accepted anchor behind another one. -/
structure After (policy : ClockModelPolicy) (earlier later : ClockAnchor) : Prop where
  node : earlier.nodeUs < later.nodeUs
  host : earlier.hostUs < later.hostUs
  certain : later.uncertaintyUs ≤ policy.maxObservationUncertaintyUs

/-- The effects of an accepted observation. -/
inductive Accepts (model : ClockModel) (candidate : ClockAnchor) : ClockModel → Prop where
  | opened (empty : model.first = none)
      (certain : candidate.uncertaintyUs ≤ model.policy.maxObservationUncertaintyUs) :
      Accepts model candidate { model with first := some candidate }
  | dropped : Accepts model candidate model
  | replaced (first : ClockAnchor) (found : model.first = some first)
      (unlocked : model.second = none) (after : After model.policy first candidate) :
      Accepts model candidate { model with first := some candidate }
  | advanced (first : ClockAnchor) (found : model.first = some first)
      (after : After model.policy (model.second.getD first) candidate)
      (drift : validateDrift (model.second.getD first) candidate
        model.policy.maximumDriftPpm = .ok ()) :
      Accepts model candidate
        { model with first := some (model.second.getD first), second := some candidate }

theorem accepts_of_observe (accepted : model.observe observation = (.ok (), next)) :
    Accepts model (ClockAnchor.of observation) next := by
  unfold observe at accepted
  split at accepted
  · cases accepted
  dsimp only at accepted
  split at accepted
  · cases accepted
  rename_i certain
  cases found : model.first with
  | none =>
    rw [found] at accepted
    cases accepted
    exact .opened found (UInt64.not_lt.mp certain)
  | some first =>
    rw [found] at accepted
    dsimp only at accepted
    split at accepted
    · cases accepted
    rename_i increasing
    simp only [not_or, UInt64.not_le] at increasing
    have after : After model.policy (model.second.getD first) (ClockAnchor.of observation) :=
      ⟨increasing.1, increasing.2, UInt64.not_lt.mp certain⟩
    split at accepted
    · rename_i close
      have unlocked : model.second = none := Option.isNone_iff_eq_none.mp close.1
      split at accepted
      · cases accepted
        rw [unlocked] at after
        exact .replaced first found unlocked after
      · cases accepted
        exact .dropped
    cases drift : validateDrift (model.second.getD first) (ClockAnchor.of observation)
        model.policy.maximumDriftPpm with
    | error error =>
      rw [drift] at accepted
      cases accepted
    | ok checked =>
      rw [drift] at accepted
      cases accepted
      exact .advanced first found after drift

/-- A rejected observation leaves the model as it was. -/
theorem unchanged_of_rejected {error : ClockModelError}
    (rejected : model.observe observation = (.error error, next)) : next = model := by
  unfold observe at rejected
  split at rejected
  · cases rejected
    rfl
  dsimp only at rejected
  split at rejected
  · cases rejected
    rfl
  split at rejected
  · cases rejected
  split at rejected
  · cases rejected
    rfl
  split at rejected
  · split at rejected <;> cases rejected
  split at rejected
  · cases rejected
    rfl
  · cases rejected

/-- The drift check of two anchors over the integers, rounded up to a microsecond. -/
def WithinDrift (policy : ClockModelPolicy) (first second : ClockAnchor) : Prop :=
  ((second.nodeUs.toNat - first.nodeUs.toNat : Int) -
      (second.hostUs.toNat - first.hostUs.toNat)).natAbs ≤
    ((second.nodeUs.toNat - first.nodeUs.toNat) * policy.maximumDriftPpm.toNat + 999999) / 1000000

/-- The anchors of a model that observations have led to. -/
structure Anchored (model : ClockModel) : Prop where
  first : ∀ first, model.first = some first →
    first.uncertaintyUs ≤ model.policy.maxObservationUncertaintyUs
  second : ∀ second, model.second = some second →
    ∃ first, model.first = some first ∧ After model.policy first second ∧
      WithinDrift model.policy first second

theorem mulDivCeil_spec {value result : UInt64} {multiplier : UInt32}
    (done : mulDivCeil value multiplier.toUInt64 1000000 = .ok result) :
    result.toNat = (value.toNat * multiplier.toNat + 999999) / 1000000 := by
  have divisor : (1000000 : UInt64).toNat = 1000000 := rfl
  unfold mulDivCeil at done
  dsimp only at done
  rw [divisor, UInt32.toNat_toUInt64] at done
  split at done
  · cases done
  split at done
  · cases done
  rename_i fits
  cases done
  exact toNat_ofNat_of_lt' (Nat.lt_of_not_le fits)

theorem toNat_absDiff (left right : UInt64) :
    (absDiff left right).toNat = ((left.toNat : Int) - right.toNat).natAbs := by
  unfold absDiff
  split
  · rename_i below
    have lt := UInt64.lt_iff_toNat_lt.mp below
    rw [UInt64.toNat_sub_of_le _ _ (UInt64.le_of_lt below)]
    omega
  rename_i above
  have le := le_iff_toNat_le.mp (UInt64.not_lt.mp above)
  rw [UInt64.toNat_sub_of_le _ _ (UInt64.not_lt.mp above)]
  omega

theorem withinDrift_of_validate {policy : ClockModelPolicy} (after : After policy first second)
    (valid : validateDrift first second policy.maximumDriftPpm = .ok ()) :
    WithinDrift policy first second := by
  unfold validateDrift at valid
  cases allowed : mulDivCeil (second.nodeUs - first.nodeUs) policy.maximumDriftPpm.toUInt64
      1000000 with
  | error error =>
    simp only [allowed] at valid
    cases valid
  | ok value =>
    simp only [allowed, bind, Except.bind] at valid
    split at valid
    · cases valid
    rename_i within
    have le := le_iff_toNat_le.mp (UInt64.not_lt.mp within)
    have node := UInt64.lt_iff_toNat_lt.mp after.node
    have host := UInt64.lt_iff_toNat_lt.mp after.host
    rw [toNat_absDiff, mulDivCeil_spec allowed,
      UInt64.toNat_sub_of_le _ _ (UInt64.le_of_lt after.node),
      UInt64.toNat_sub_of_le _ _ (UInt64.le_of_lt after.host)] at le
    unfold WithinDrift
    refine Nat.le_trans (Nat.le_of_eq ?_) le
    omega

variable (anchored : model.Anchored)

include anchored

theorem Anchored.accepts {candidate : ClockAnchor} (accepts : Accepts model candidate next) :
    next.Anchored := by
  cases accepts with
  | opened empty certain =>
    refine ⟨fun first found => ?_, fun second found => ?_⟩
    · cases found
      exact certain
    · obtain ⟨first, impossible, -⟩ := anchored.second second found
      rw [empty] at impossible
      cases impossible
  | dropped => exact anchored
  | replaced first found unlocked after =>
    refine ⟨fun first found => ?_, fun second found => ?_⟩
    · cases found
      exact after.certain
    · rw [unlocked] at found
      cases found
  | advanced first found after drift =>
    refine ⟨fun baseline same => ?_, fun second same => ?_⟩
    · cases same
      cases locked : model.second with
      | none => exact anchored.first first found
      | some second =>
        obtain ⟨_, _, behind, _⟩ := anchored.second second locked
        exact behind.certain
    · cases same
      exact ⟨_, rfl, after, withinDrift_of_validate after drift⟩

theorem Anchored.observe (observation : ClockObservation) :
    (model.observe observation).2.Anchored := by
  cases outcome : model.observe observation with
  | mk result after =>
    cases result with
    | error error =>
      obtain rfl := unchanged_of_rejected outcome
      exact anchored
    | ok checked => exact anchored.accepts (accepts_of_observe outcome)

theorem Anchored.observeAll (observations : List ClockObservation) :
    (model.observeAll observations).Anchored := by
  induction observations generalizing model with
  | nil => exact anchored
  | cons observation rest ih => exact ih (anchored.observe observation)

omit anchored

theorem anchored_new {bootEpoch : BootEpoch} {policy : ClockModelPolicy}
    (started : ClockModel.new bootEpoch policy = .ok model) : model.Anchored := by
  unfold ClockModel.new at started
  split at started
  · cases started
  cases checked : policy.validate with
  | error error =>
    simp only [checked] at started
    cases started
  | ok valid =>
    simp only [checked] at started
    cases started
    exact ⟨nofun, nofun⟩

/-- The line through two anchors, truncated towards the first. -/
def line (first second : ClockAnchor) (nodeUs : UInt64) : Int :=
  first.hostUs.toNat + (((nodeUs.toNat : Int) - first.nodeUs.toNat) *
    (second.hostUs.toNat - first.hostUs.toNat)).tdiv (second.nodeUs.toNat - first.nodeUs.toNat)

/-- How far a node time lies outside the anchors, over the integers. -/
def outside (first second : ClockAnchor) (nodeUs : UInt64) : Nat :=
  (first.nodeUs.toNat - nodeUs.toNat) + (nodeUs.toNat - second.nodeUs.toNat)

theorem toNat_outsideUs (ordered : first.nodeUs < second.nodeUs) (nodeUs : UInt64) :
    (outsideUs first second nodeUs).toNat = outside first second nodeUs := by
  have lt := UInt64.lt_iff_toNat_lt.mp ordered
  unfold outsideUs outside
  split
  · rename_i before
    have early := UInt64.lt_iff_toNat_lt.mp before
    rw [UInt64.toNat_sub_of_le _ _ (UInt64.le_of_lt before)]
    omega
  rename_i behind
  have late := le_iff_toNat_le.mp (UInt64.not_lt.mp behind)
  split
  · rename_i inside
    have := UInt64.lt_iff_toNat_lt.mp inside
    have zero : (0 : UInt64).toNat = 0 := rfl
    rw [zero]
    omega
  rename_i past
  have := le_iff_toNat_le.mp (UInt64.not_lt.mp past)
  rw [UInt64.toNat_sub_of_le _ _ (UInt64.not_lt.mp past)]
  omega

/-- Both clocks moved on from one anchor to the other. -/
structure Rising (earlier later : ClockAnchor) : Prop where
  node : earlier.nodeUs < later.nodeUs
  host : earlier.hostUs < later.hostUs

variable {policy : ClockModelPolicy}

theorem After.rising {earlier later : ClockAnchor} (after : After policy earlier later) :
    Rising earlier later := ⟨after.node, after.host⟩

/-- The distances of two ordered anchors. -/
theorem deltas (rising : Rising first second) :
    (((second.nodeUs - first.nodeUs).toNat : Nat) : Int) =
        second.nodeUs.toNat - first.nodeUs.toNat ∧
      (((second.hostUs - first.hostUs).toNat : Nat) : Int) =
        second.hostUs.toNat - first.hostUs.toNat := by
  have node := UInt64.lt_iff_toNat_lt.mp rising.node
  have host := UInt64.lt_iff_toNat_lt.mp rising.host
  rw [UInt64.toNat_sub_of_le _ _ (UInt64.le_of_lt rising.node),
    UInt64.toNat_sub_of_le _ _ (UInt64.le_of_lt rising.host)]
  omega

variable {mapped nodeUs : UInt64}

theorem interpolate_spec (rising : Rising first second)
    (done : interpolate first second nodeUs = .ok mapped) :
    (mapped.toNat : Int) = line first second nodeUs := by
  obtain ⟨node, host⟩ := deltas rising
  unfold interpolate at done
  rw [node, host] at done
  dsimp only at done
  split at done
  · cases done
  split at done
  · cases done
  split at done
  · cases done
  rename_i inside
  simp only [not_or, not_lt, ge_iff_le, not_le] at inside
  cases done
  rw [toNat_ofNat_of_lt' (show _ < 2 ^ 64 by omega)]
  exact Int.toNat_of_nonneg inside.1

/-- Where the product fits, every line inside 64 bits is answered. -/
theorem interpolate_of_fits (rising : Rising first second)
    (product : fitsI128 (((nodeUs.toNat : Int) - first.nodeUs.toNat) *
      (second.hostUs.toNat - first.hostUs.toNat)))
    (mapsTo : line first second nodeUs = mapped.toNat) :
    interpolate first second nodeUs = .ok mapped := by
  obtain ⟨node, host⟩ := deltas rising
  have bound : mapped.toNat < 2 ^ 64 := mapped.toNat_lt
  unfold line at mapsTo
  unfold interpolate
  rw [node, host]
  dsimp only
  rw [if_neg (not_not.mpr product), mapsTo, if_neg (not_not.mpr ⟨by omega, by omega⟩),
    if_neg (by omega), Int.toNat_natCast, UInt64.ofNat_toNat]

theorem line_first (first second : ClockAnchor) :
    line first second first.nodeUs = first.hostUs.toNat := by
  rw [line, Int.sub_self, Int.zero_mul, Int.zero_tdiv, Int.add_zero]

theorem line_second (rising : Rising first second) :
    line first second second.nodeUs = second.hostUs.toNat := by
  have node := UInt64.lt_iff_toNat_lt.mp rising.node
  rw [line, Int.mul_tdiv_cancel_left _ (by omega)]
  omega

theorem line_mono (rising : Rising first second) {earlier later : UInt64}
    (le : earlier ≤ later) : line first second earlier ≤ line first second later := by
  have node := UInt64.lt_iff_toNat_lt.mp rising.node
  have host := UInt64.lt_iff_toNat_lt.mp rising.host
  have order := le_iff_toNat_le.mp le
  unfold line
  refine Int.add_le_add_left (Int.tdiv_le_tdiv ?_ (Int.mul_le_mul_of_nonneg_right ?_ ?_)) _
  · omega
  · omega
  · omega

/-- What an answer of `estimate` is. -/
structure Answers (model : ClockModel) (first second : ClockAnchor) (nodeUs : UInt64)
    (estimate : ClockEstimate) : Prop where
  earlier : model.first = some first
  later : model.second = some second
  after : After model.policy first second
  holdover : outside first second nodeUs ≤ model.policy.maximumHoldoverUs.toNat
  host : (estimate.hostMonotonicUs.toNat : Int) = line first second nodeUs
  uncertainty : estimate.uncertaintyUs.toNat =
    max first.uncertaintyUs.toNat second.uncertaintyUs.toNat +
      (outside first second nodeUs * model.policy.maximumDriftPpm.toNat + 999999) / 1000000
  state : estimate.state = if outside first second nodeUs = 0 then .locked else .holdover

theorem toNat_max (left right : UInt64) : (max left right).toNat = max left.toNat right.toNat := by
  have total := le_iff_toNat_le (a := left) (b := right)
  by_cases le : left ≤ right
  · have := total.mp le
    rw [UInt64.max_def, if_pos le]
    omega
  have := total.not.mp le
  rw [UInt64.max_def, if_neg le]
  omega

theorem answers_of_estimate (anchored : model.Anchored) {estimate : ClockEstimate}
    (done : model.estimate nodeUs = .ok estimate) :
    ∃ first second, Answers model first second nodeUs estimate := by
  unfold ClockModel.estimate at done
  cases firstFound : model.first with
  | none =>
    rw [firstFound] at done
    cases done
  | some first =>
    cases secondFound : model.second with
    | none =>
      rw [firstFound, secondFound] at done
      cases done
    | some second =>
      obtain ⟨baseline, same, after, drift⟩ := anchored.second second secondFound
      obtain rfl : first = baseline := Option.some.inj (firstFound.symm.trans same)
      rw [firstFound, secondFound] at done
      dsimp only at done
      split at done
      · cases done
      rename_i holdover
      cases mapped : interpolate first second nodeUs with
      | error error =>
        simp only [mapped] at done
        cases done
      | ok hostMonotonicUs =>
        cases growth : mulDivCeil (outsideUs first second nodeUs)
            model.policy.maximumDriftPpm.toUInt64 1000000 with
        | error error =>
          simp only [mapped, growth] at done
          cases done
        | ok driftGrowth =>
          simp only [mapped, growth, bind, Except.bind] at done
          cases sum : checkedAdd (max first.uncertaintyUs second.uncertaintyUs) driftGrowth with
          | none =>
            rw [sum] at done
            cases done
          | some uncertaintyUs =>
            rw [sum] at done
            cases done
            have outsideNat := toNat_outsideUs after.node nodeUs
            refine ⟨first, second, firstFound, secondFound, after, ?_,
              interpolate_spec after.rising mapped, ?_, ?_⟩
            · rw [← outsideNat]
              exact le_iff_toNat_le.mp (UInt64.not_lt.mp holdover)
            · rw [← checkedAdd_eq_some.mp sum, toNat_max, mulDivCeil_spec growth, outsideNat]
            have zero : outsideUs first second nodeUs = 0 ↔ outside first second nodeUs = 0 := by
              rw [← outsideNat, ← UInt64.toNat_inj]
              rfl
            simp only [zero]

end ClockModel
end SensorSystem.Host
