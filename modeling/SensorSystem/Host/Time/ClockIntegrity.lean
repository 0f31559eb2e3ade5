import SensorSystem.Host.Time.ClockModel

/-! What holds of the clock model after every sequence of observations. -/

namespace SensorSystem.Host.ClockModel

variable {model next : ClockModel} {observation : ClockObservation}
  {first second anchor : ClockAnchor}

/-- The anchors a model keeps. -/
def Keeps (model : ClockModel) (anchor : ClockAnchor) : Prop :=
  model.first = some anchor ∨ model.second = some anchor

variable {candidate : ClockAnchor}

theorem Accepts.policy (accepts : Accepts model candidate next) : next.policy = model.policy := by
  cases accepts <;> rfl

theorem policy_observeAll (observations : List ClockObservation) (model : ClockModel) :
    (model.observeAll observations).policy = model.policy := by
  induction observations generalizing model with
  | nil => rfl
  | cons observation rest ih =>
    rw [observeAll, ih]
    cases outcome : model.observe observation with
    | mk result after =>
      cases result with
      | error error => rw [unchanged_of_rejected outcome]
      | ok checked => exact (accepts_of_observe outcome).policy

theorem policy_new {bootEpoch : BootEpoch} {policy : ClockModelPolicy}
    (started : ClockModel.new bootEpoch policy = .ok model) : model.policy = policy := by
  unfold ClockModel.new ClockModelPolicy.validate at started
  split at started
  · cases started
  split at started
  · cases started
  · cases started
    rfl

theorem Anchored.certain (anchored : model.Anchored) (kept : model.Keeps anchor) :
    anchor.uncertaintyUs ≤ model.policy.maxObservationUncertaintyUs := by
  rcases kept with first | second
  · exact anchored.first anchor first
  · obtain ⟨_, _, after, _⟩ := anchored.second anchor second
    exact after.certain

/-- An anchor that is new to the model lies behind all it kept. -/
theorem Accepts.later (anchored : model.Anchored) (accepts : Accepts model candidate next)
    (kept : next.Keeps anchor) : model.Keeps anchor ∨ ∀ held, model.Keeps held →
      held.nodeUs < anchor.nodeUs ∧ held.hostUs < anchor.hostUs := by
  cases accepts with
  | opened empty certain =>
    have unlocked : model.second = none := by
      cases locked : model.second with
      | none => rfl
      | some second =>
        obtain ⟨first, found, -⟩ := anchored.second second locked
        rw [empty] at found
        cases found
    refine .inr fun held kept => ?_
    rcases kept with found | found
    · rw [empty] at found
      cases found
    · rw [unlocked] at found
      cases found
  | dropped => exact .inl kept
  | replaced first found unlocked after =>
    rcases kept with same | same
    · cases same
      refine .inr fun held kept => ?_
      rcases kept with first | second
      · obtain rfl := Option.some.inj (found.symm.trans first)
        exact ⟨after.node, after.host⟩
      · rw [unlocked] at second
        cases second
    · exact .inl (.inr same)
  | advanced first found after drift =>
    rcases kept with same | same
    · cases same
      cases locked : model.second with
      | none => exact .inl (.inl found)
      | some second => exact .inl (.inr locked)
    cases same
    refine .inr fun held kept => ?_
    cases locked : model.second with
    | none =>
      rw [locked] at after
      rcases kept with first | second
      · obtain rfl := Option.some.inj (found.symm.trans first)
        exact ⟨after.node, after.host⟩
      · rw [locked] at second
        cases second
    | some latest =>
      rw [locked] at after
      rcases kept with oldest | newest
      · obtain ⟨baseline, same, between, -⟩ := anchored.second latest locked
        obtain rfl := Option.some.inj (oldest.symm.trans same)
        exact ⟨UInt64.lt_trans between.node after.node, UInt64.lt_trans between.host after.host⟩
      · obtain rfl := Option.some.inj (locked.symm.trans newest)
        exact ⟨after.node, after.host⟩

theorem mulDivCeil_zero (multiplier : UInt32) :
    mulDivCeil 0 multiplier.toUInt64 1000000 = .ok 0 := by
  have zero : (0 : UInt64).toNat = 0 := rfl
  unfold mulDivCeil
  rw [zero, Nat.zero_mul]
  rfl

/-- Inside the anchors the model answers what it interpolates. -/
theorem estimate_inside (firstFound : model.first = some first)
    (secondFound : model.second = some second) {nodeUs mapped : UInt64}
    (inside : outsideUs first second nodeUs = 0)
    (interpolated : interpolate first second nodeUs = .ok mapped) : model.estimate nodeUs =
      .ok ⟨mapped, max first.uncertaintyUs second.uncertaintyUs, .locked⟩ := by
  have sum : checkedAdd (max first.uncertaintyUs second.uncertaintyUs) 0 =
      some (max first.uncertaintyUs second.uncertaintyUs) := checkedAdd_eq_some.mpr rfl
  unfold ClockModel.estimate
  rw [firstFound, secondFound]
  simp only [inside, interpolated, mulDivCeil_zero, bind, Except.bind, sum]
  rw [if_neg (UInt64.not_lt.mpr UInt64.zero_le), if_pos trivial]

theorem outsideUs_first (ordered : first.nodeUs < second.nodeUs) :
    outsideUs first second first.nodeUs = 0 := by
  rw [outsideUs, if_neg (UInt64.lt_irrefl _), if_pos ordered]

theorem outsideUs_second (ordered : first.nodeUs < second.nodeUs) :
    outsideUs first second second.nodeUs = 0 := by
  rw [outsideUs, if_neg (UInt64.not_lt.mpr (UInt64.le_of_lt ordered)),
    if_neg (UInt64.lt_irrefl _), UInt64.sub_self]

/-- After every sequence of observations the anchors rise and agree with the policy, a rejected
observation changes nothing, and an answer lies on the line through the anchors. The drift
limit is rounded up to a microsecond, and the second anchor is answered while the product of
the two distances fits the signed 128-bit integer. -/
theorem clock_model_integrity {bootEpoch : BootEpoch} {policy : ClockModelPolicy}
    {initial model : ClockModel} (started : ClockModel.new bootEpoch policy = .ok initial)
    {observations : List ClockObservation} (reached : initial.observeAll observations = model) :
    (∀ anchor, model.Keeps anchor → anchor.uncertaintyUs ≤ policy.maxObservationUncertaintyUs) ∧
      (∀ second, model.second = some second → ∃ first, model.first = some first ∧
        first.nodeUs < second.nodeUs ∧ first.hostUs < second.hostUs ∧
        WithinDrift policy first second) ∧
      (∀ observation next, model.observe observation = (.ok (), next) →
        ∀ anchor, next.Keeps anchor → model.Keeps anchor ∨
          ∀ held, model.Keeps held →
            held.nodeUs < anchor.nodeUs ∧ held.hostUs < anchor.hostUs) ∧
      (∀ observation error next, model.observe observation = (.error error, next) →
        next = model) ∧
      (∀ nodeUs estimate, model.estimate nodeUs = .ok estimate →
        ∃ first second, model.first = some first ∧ model.second = some second ∧
          second.nodeUs - first.nodeUs ≠ 0 ∧
          outside first second nodeUs ≤ policy.maximumHoldoverUs.toNat ∧
          (estimate.hostMonotonicUs.toNat : Int) = line first second nodeUs ∧
          estimate.uncertaintyUs.toNat =
            max first.uncertaintyUs.toNat second.uncertaintyUs.toNat +
              (outside first second nodeUs * policy.maximumDriftPpm.toNat + 999999) /
                1000000) ∧
      (∀ first second, model.first = some first → model.second = some second →
        (∃ estimate, model.estimate first.nodeUs = .ok estimate ∧
          estimate.hostMonotonicUs = first.hostUs) ∧
        if (second.nodeUs.toNat - first.nodeUs.toNat) *
            (second.hostUs.toNat - first.hostUs.toNat) < 2 ^ 127 then
          ∃ estimate, model.estimate second.nodeUs = .ok estimate ∧
            estimate.hostMonotonicUs = second.hostUs
        else model.estimate second.nodeUs = .error .arithmeticOverflow) ∧
      (∀ earlier later first last, model.estimate earlier = .ok first →
        model.estimate later = .ok last → earlier ≤ later →
          first.hostMonotonicUs ≤ last.hostMonotonicUs) := by
  have anchored : model.Anchored := by
    rw [← reached]
    exact (anchored_new started).observeAll observations
  have same : model.policy = policy := by
    rw [← reached, policy_observeAll, policy_new started]
  subst same
  refine ⟨fun anchor kept => anchored.certain kept, fun second found => ?_,
    fun observation next accepted anchor kept =>
      (accepts_of_observe accepted).later anchored kept,
    fun observation error next rejected => unchanged_of_rejected rejected,
    fun nodeUs estimate answered => ?_, fun first second firstFound secondFound => ⟨?_, ?_⟩,
    fun earlier later first last firstAnswered lastAnswered le => ?_⟩
  · obtain ⟨first, firstFound, after, drift⟩ := anchored.second second found
    exact ⟨first, firstFound, after.node, after.host, drift⟩
  · obtain ⟨first, second, answers⟩ := answers_of_estimate anchored answered
    refine ⟨first, second, answers.earlier, answers.later, ?_, answers.holdover, answers.host,
      answers.uncertainty⟩
    intro zero
    have node := UInt64.lt_iff_toNat_lt.mp answers.after.node
    have delta := UInt64.toNat_sub_of_le _ _ (UInt64.le_of_lt answers.after.node)
    have none : (0 : UInt64).toNat = 0 := rfl
    rw [zero, none] at delta
    omega
  · obtain ⟨baseline, found, after, -⟩ := anchored.second second secondFound
    obtain rfl := Option.some.inj (firstFound.symm.trans found)
    refine ⟨_, estimate_inside firstFound secondFound (outsideUs_first after.node)
      (interpolate_of_fits after.rising ?_ (line_first first second)), rfl⟩
    rw [Int.sub_self, Int.zero_mul]
    decide
  · obtain ⟨baseline, found, after, -⟩ := anchored.second second secondFound
    obtain rfl := Option.some.inj (firstFound.symm.trans found)
    have node := UInt64.lt_iff_toNat_lt.mp after.node
    have host := UInt64.lt_iff_toNat_lt.mp after.host
    have product : ((second.nodeUs.toNat : Int) - first.nodeUs.toNat) *
        (second.hostUs.toNat - first.hostUs.toNat) =
        ((second.nodeUs.toNat - first.nodeUs.toNat) *
          (second.hostUs.toNat - first.hostUs.toNat) : Nat) := by
      rw [Int.natCast_mul, Int.natCast_sub (Nat.le_of_lt node), Int.natCast_sub (Nat.le_of_lt host)]
    split
    · rename_i fits
      refine ⟨_, estimate_inside firstFound secondFound (outsideUs_second after.node)
        (interpolate_of_fits after.rising ?_ (line_second after.rising)), rfl⟩
      rw [product]
      exact ⟨by omega, by exact_mod_cast fits⟩
    rename_i tooWide
    obtain ⟨nodeDelta, hostDelta⟩ := deltas after.rising
    have overflow : interpolate first second second.nodeUs = .error .arithmeticOverflow := by
      unfold interpolate
      rw [hostDelta]
      dsimp only
      rw [product]
      exact if_pos fun fits => tooWide (by exact_mod_cast fits.2)
    unfold ClockModel.estimate
    rw [firstFound, secondFound]
    simp only [outsideUs_second after.node, overflow]
    rw [if_neg (UInt64.not_lt.mpr UInt64.zero_le)]
    rfl
  · obtain ⟨oldest, newest, answers⟩ := answers_of_estimate anchored firstAnswered
    obtain ⟨oldest', newest', answers'⟩ := answers_of_estimate anchored lastAnswered
    obtain rfl := Option.some.inj (answers.earlier.symm.trans answers'.earlier)
    obtain rfl := Option.some.inj (answers.later.symm.trans answers'.later)
    have mono := line_mono answers.after.rising le
    rw [← answers.host, ← answers'.host] at mono
    exact UInt64.le_iff_toNat_le.mpr (by omega)

/-- Two exchanges without delay, a second apart. -/
theorem clock_model_integrity_of_two :
    ∃ first, ((⟨7, ⟨100, 1000000, 100, 60000000⟩, none, none⟩ : ClockModel).observeAll
        [⟨7, 5000, 1000, 1000, 5000⟩, ⟨7, 1005000, 1001000, 1001000, 1005000⟩]).first = some first ∧
      first.nodeUs < 1001000 := by
  obtain ⟨first, found, lt, -⟩ := (@clock_model_integrity 7 ⟨100, 1000000, 100, 60000000⟩
    ⟨7, ⟨100, 1000000, 100, 60000000⟩, none, none⟩ _ rfl
    [⟨7, 5000, 1000, 1000, 5000⟩, ⟨7, 1005000, 1001000, 1001000, 1005000⟩] rfl).2.1
      ⟨1001000, 1005000, 0⟩ (by decide)
  exact ⟨first, found, lt⟩

/-- A microsecond after the model is locked, an anchor two microseconds later on the host
passes a limit of 100 ppm; and anchors 2^64 microseconds apart are not answered. -/
theorem clock_model_limits_exceeded :
    (∃ model, ClockModel.new 7 ⟨100, 1000000, 100, 60000000⟩ = .ok model ∧
      ∃ first second, (model.observeAll [⟨7, 5000, 1000, 1000, 5000⟩,
          ⟨7, 1005000, 1001000, 1001000, 1005000⟩,
          ⟨7, 1005002, 1001001, 1001001, 1005002⟩]).first = some first ∧
        (model.observeAll [⟨7, 5000, 1000, 1000, 5000⟩,
          ⟨7, 1005000, 1001000, 1001000, 1005000⟩,
          ⟨7, 1005002, 1001001, 1001001, 1005002⟩]).second = some second ∧
        (second.nodeUs.toNat - first.nodeUs.toNat) * 100 <
          ((second.nodeUs.toNat - first.nodeUs.toNat : Int) -
            (second.hostUs.toNat - first.hostUs.toNat)).natAbs * 1000000) ∧
    ∃ model, ClockModel.new 7 ⟨1, 1, 100, 1⟩ = .ok model ∧
      ∃ second, (model.observeAll [⟨7, 0, 0, 0, 0⟩, ⟨7, 18446744073709551615,
          18446744073709551615, 18446744073709551615, 18446744073709551615⟩]).second =
          some second ∧
        (model.observeAll [⟨7, 0, 0, 0, 0⟩, ⟨7, 18446744073709551615,
          18446744073709551615, 18446744073709551615, 18446744073709551615⟩]).estimate
            second.nodeUs = .error .arithmeticOverflow :=
  ⟨⟨_, rfl, ⟨1001000, 1005000, 0⟩, ⟨1001001, 1005002, 0⟩, by decide, by decide, by decide⟩,
    ⟨_, rfl, ⟨18446744073709551615, 18446744073709551615, 0⟩, by decide, by decide⟩⟩

end SensorSystem.Host.ClockModel
