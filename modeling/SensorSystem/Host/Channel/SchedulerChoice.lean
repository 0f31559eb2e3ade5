import SensorSystem.Host.Channel.ChannelScheduler

/-! The scheduler chooses the eligible candidate of least rank, whatever the order of the
candidates. -/

namespace SensorSystem.Host

open List Option Base

namespace Rank

variable {left right : Rank}

theorem key_injective (same : left.key = right.key) : left = right := by
  obtain ⟨tier, primary, secondary, nodeAddress, workId⟩ := left
  obtain ⟨tier', primary', secondary', nodeAddress', workId'⟩ := right
  simp only [key, cons.injEq, UInt64.toNat_inj, UInt8.toNat_inj, and_true] at same
  obtain ⟨rfl, rfl, rfl, rfl, rfl⟩ := same
  rfl

theorem key_lt_iff : left.key < right.key ↔
    left.tier.toNat < right.tier.toNat ∨ left.tier.toNat = right.tier.toNat ∧
      (left.primary.toNat < right.primary.toNat ∨ left.primary.toNat = right.primary.toNat ∧
        (left.secondary.toNat < right.secondary.toNat ∨
          left.secondary.toNat = right.secondary.toNat ∧
          (left.nodeAddress.toNat < right.nodeAddress.toNat ∨
            left.nodeAddress.toNat = right.nodeAddress.toNat ∧
            left.workId.toNat < right.workId.toNat))) := by
  simp [key, cons_lt_cons_iff]

theorem not_key_lt_self (rank : Rank) : ¬ rank.key < rank.key := by
  rw [key_lt_iff]
  omega

theorem not_key_lt_trans {first second third : Rank} (early : ¬ second.key < first.key)
    (late : ¬ third.key < second.key) : ¬ third.key < first.key := by
  rw [key_lt_iff] at *
  omega

theorem not_key_lt_of_lt (below : left.key < right.key) : ¬ right.key < left.key := by
  rw [key_lt_iff] at *
  omega

theorem eq_of_not_key_lt (early : ¬ right.key < left.key) (late : ¬ left.key < right.key) :
    left = right := by
  rw [key_lt_iff] at early late
  apply key_injective
  simp only [key, cons.injEq, and_true]
  omega

/-- What is not behind a rank of tier zero has tier zero itself. -/
theorem urgent_of_not_key_lt (early : ¬ right.key < left.key) (urgent : right.tier = 0) :
    left.tier = 0 ∧ left.primary ≤ right.primary := by
  rw [key_lt_iff, urgent] at early
  have zero : (0 : UInt8).toNat = 0 := rfl
  rw [zero] at early
  have tier : left.tier.toNat = (0 : UInt8).toNat := by omega
  exact ⟨UInt8.toNat_inj.mp tier, UInt64.le_iff_toNat_le.mpr (by omega)⟩

end Rank

/-- What the clock and the budget allow to be sent now. -/
structure WorkCandidate.Eligible (context : ScheduleContext) (candidate : WorkCandidate) :
    Prop where
  ready : candidate.readyAt ≤ context.now
  budget : candidate.class_ = .diagnostics → context.observability = .diagnostic ∧
    candidate.estimatedSlot.value ≤ context.diagnosticBudgetUs
  /-- Synchronization, health and telemetry wait for their deadline. -/
  due : candidate.class_ = .timeSync ∨ candidate.class_ = .health ∨
      candidate.class_ = .telemetry →
    ∃ deadline, candidate.deadline = some deadline ∧
      deadline ≤ saturatingAdd context.now candidate.estimatedSlot.value

/-- A measurement whose ring overflows within the guard. -/
structure WorkCandidate.Overflowing (policy : ChannelSchedulerPolicy) (context : ScheduleContext)
    (candidate : WorkCandidate) (timeToOverflowUs : UInt64) : Prop where
  ready : candidate.readyAt ≤ context.now
  measurement : candidate.class_ = .measurement
  estimate : candidate.timeToOverflowUs = some timeToOverflowUs
  within : timeToOverflowUs ≤ policy.overflowGuard.value

theorem WorkCandidate.Overflowing.eligible {policy : ChannelSchedulerPolicy}
    {context : ScheduleContext} {candidate : WorkCandidate} {timeToOverflowUs : UInt64}
    (overflowing : candidate.Overflowing policy context timeToOverflowUs) :
    candidate.Eligible context where
  ready := overflowing.ready
  budget kind := by
    rw [overflowing.measurement] at kind
    cases kind
  due waiting := by
    rw [overflowing.measurement] at waiting
    rcases waiting with kind | kind | kind <;> cases kind

namespace ChannelScheduler

variable {scheduler : ChannelScheduler} {context : ScheduleContext} {candidate : WorkCandidate}
  {rank : Rank} {timeToOverflowUs : UInt64}

theorem measurement_of_validate (valid : scheduler.validateCandidate candidate = .ok ())
    (estimate : candidate.timeToOverflowUs = some timeToOverflowUs) :
    candidate.class_ = .measurement := by
  unfold validateCandidate at valid
  split at valid
  · cases valid
  split at valid
  · cases valid
  cases kind : candidate.class_ with
  | measurement => rfl
  | _ =>
    simp only [kind, estimate] at valid
    split at valid <;> cases valid

/-- The ranks the scheduler gives out. -/
inductive Ranked (scheduler : ChannelScheduler) (context : ScheduleContext)
    (candidate : WorkCandidate) : Rank → Prop where
  | overflow (timeToOverflowUs : UInt64)
      (estimate : candidate.timeToOverflowUs = some timeToOverflowUs)
      (within : timeToOverflowUs ≤ scheduler.policy.overflowGuard.value) :
      Ranked scheduler context candidate (.new 0 timeToOverflowUs candidate.queuedAt candidate)
  | later (tier : UInt8) (primary secondary : UInt64) (positive : tier ≠ 0)
      (outside : ∀ timeToOverflowUs, candidate.timeToOverflowUs = some timeToOverflowUs →
        scheduler.policy.overflowGuard.value < timeToOverflowUs) :
      Ranked scheduler context candidate (.new tier primary secondary candidate)

theorem ranked_of_rank (found : scheduler.rank context candidate = some rank) :
    Ranked scheduler context candidate rank := by
  unfold ChannelScheduler.rank urgentRank at found
  split at found
  · cases found
  split at found
  · cases found
  cases overflow : candidate.timeToOverflowUs.filter
      (· ≤ scheduler.policy.overflowGuard.value) with
  | some timeToOverflowUs =>
    obtain ⟨estimate, within⟩ := filter_eq_some_iff.mp overflow
    simp only [overflow, Option.some.injEq] at found
    rw [← found]
    exact .overflow timeToOverflowUs estimate (of_decide_eq_true within)
  | none =>
    have outside : ∀ timeToOverflowUs, candidate.timeToOverflowUs = some timeToOverflowUs →
        scheduler.policy.overflowGuard.value < timeToOverflowUs := by
      intro timeToOverflowUs estimate
      rw [estimate, filter_some] at overflow
      split at overflow
      · cases overflow
      · rename_i late
        exact UInt64.not_le.mp (mt decide_eq_true late)
    simp only [overflow] at found
    cases due : candidate.deadline.filter
        (· ≤ saturatingAdd context.now candidate.estimatedSlot.value) with
    | some deadline =>
      simp only [due, Option.some.injEq] at found
      rw [← found]
      exact .later 1 _ _ (by decide) outside
    | none =>
      simp only [due] at found
      split at found
      · cases found
        exact .later 2 _ _ (by decide) outside
      · cases found
        exact .later 3 _ _ (by decide) outside
      · cases found
        exact .later 4 _ _ (by decide) outside
      · cases found

variable (ranked : Ranked scheduler context candidate rank)

include ranked

theorem Ranked.identity :
    rank.nodeAddress = candidate.nodeAddress ∧ rank.workId = candidate.workId := by
  cases ranked <;> exact ⟨rfl, rfl⟩

theorem Ranked.urgent (urgent : rank.tier = 0) : candidate.timeToOverflowUs = some rank.primary ∧
      rank.primary ≤ scheduler.policy.overflowGuard.value := by
  cases ranked with
  | overflow timeToOverflowUs estimate within => exact ⟨estimate, within⟩
  | later tier primary secondary positive outside => exact absurd urgent positive

theorem Ranked.tier_of_within (estimate : candidate.timeToOverflowUs = some timeToOverflowUs)
    (within : timeToOverflowUs ≤ scheduler.policy.overflowGuard.value) :
    rank.tier = 0 ∧ rank.primary = timeToOverflowUs := by
  cases ranked with
  | overflow found same _ => exact ⟨rfl, Option.some.inj (same.symm.trans estimate)⟩
  | later tier primary secondary positive outside =>
    exact absurd within (UInt64.not_le.mpr (outside timeToOverflowUs estimate))

omit ranked

/-- A candidate has a rank exactly when it is eligible. -/
theorem rank_ne_none_iff (valid : scheduler.validateCandidate candidate = .ok ()) :
    scheduler.rank context candidate ≠ none ↔ candidate.Eligible context := by
  have measurement : ∀ timeToOverflowUs, candidate.timeToOverflowUs = some timeToOverflowUs →
      candidate.class_ = .measurement := fun _ => measurement_of_validate valid
  constructor
  · intro ranked
    unfold ChannelScheduler.rank urgentRank at ranked
    split at ranked
    · exact absurd rfl ranked
    rename_i ready
    split at ranked
    · exact absurd rfl ranked
    rename_i budget
    refine ⟨UInt64.not_lt.mp ready, fun diagnostics => ?_, fun waiting => ?_⟩
    · simp only [diagnostics, true_and, not_or, not_not] at budget
      exact ⟨budget.1, UInt64.not_lt.mp budget.2⟩
    cases estimate : candidate.timeToOverflowUs with
    | some timeToOverflowUs =>
      rw [measurement timeToOverflowUs estimate] at waiting
      simp at waiting
    | none =>
      cases due : candidate.deadline.filter
          (· ≤ saturatingAdd context.now candidate.estimatedSlot.value) with
      | some deadline =>
        obtain ⟨found, reached⟩ := filter_eq_some_iff.mp due
        exact ⟨deadline, found, of_decide_eq_true reached⟩
      | none =>
        rcases waiting with kind | kind | kind <;>
          simp [estimate, due, kind] at ranked
  · rintro ⟨ready, budget, due⟩
    unfold ChannelScheduler.rank
    rw [if_neg (UInt64.not_lt.mpr ready), if_neg (by
      rintro ⟨diagnostics, profile | slot⟩
      · exact profile (budget diagnostics).1
      · exact absurd (budget diagnostics).2 (UInt64.not_le.mpr slot))]
    cases urgent : scheduler.urgentRank context candidate with
    | some rank => exact some_ne_none _
    | none =>
      have waiting : ∀ deadline, candidate.deadline = some deadline →
          deadline ≤ saturatingAdd context.now candidate.estimatedSlot.value → False := by
        intro deadline found reached
        unfold urgentRank at urgent
        rw [found, filter_some, if_pos (decide_eq_true reached)] at urgent
        dsimp only at urgent
        split at urgent
        · cases urgent
        · cases urgent
        · rename_i none
          cases none
      cases kind : candidate.class_ with
      | timeSync =>
        obtain ⟨deadline, found, reached⟩ := due (.inl kind)
        exact (waiting deadline found reached).elim
      | health =>
        obtain ⟨deadline, found, reached⟩ := due (.inr (.inl kind))
        exact (waiting deadline found reached).elim
      | telemetry =>
        obtain ⟨deadline, found, reached⟩ := due (.inr (.inr kind))
        exact (waiting deadline found reached).elim
      | _ => exact some_ne_none _

/-- What the loop has found: the least of the ranks seen, with its candidate. -/
structure Least (scheduler : ChannelScheduler) (context : ScheduleContext) (index : Nat)
    (selected : Option (ScheduledWork × Rank)) (rest : List WorkCandidate)
    (found : Option (ScheduledWork × Rank)) : Prop where
  source : ∀ pair, found = some pair → selected = some pair ∨
    ∃ offset candidate, rest[offset]? = some candidate ∧
      scheduler.rank context candidate = some pair.2 ∧
      pair.1 = ⟨index + offset, candidate.workId, candidate.nodeAddress, candidate.class_⟩
  before : ∀ previous, selected = some previous →
    ∃ pair, found = some pair ∧ ¬ previous.2.key < pair.2.key
  least : ∀ candidate ∈ rest, ∀ rank, scheduler.rank context candidate = some rank →
    ∃ pair, found = some pair ∧ ¬ rank.key < pair.2.key

/-- One turn of the loop, which goes on with `next`. -/
theorem Least.cons {index : Nat} {selected next found : Option (ScheduledWork × Rank)}
    {rest : List WorkCandidate} (later : Least scheduler context (index + 1) next rest found)
    (source : ∀ pair, next = some pair → selected = some pair ∨
      scheduler.rank context candidate = some pair.2 ∧
        pair.1 = ⟨index, candidate.workId, candidate.nodeAddress, candidate.class_⟩)
    (before : ∀ previous, selected = some previous →
      ∃ pair, next = some pair ∧ ¬ previous.2.key < pair.2.key)
    (least : ∀ rank, scheduler.rank context candidate = some rank →
      ∃ pair, next = some pair ∧ ¬ rank.key < pair.2.key) :
    Least scheduler context index selected (candidate :: rest) found := by
  refine ⟨fun pair same => ?_, fun previous same => ?_, fun other member rank ranked => ?_⟩
  · rcases later.source pair same with kept | ⟨offset, other, place, ranked, work⟩
    · rcases source pair kept with previous | ⟨ranked, work⟩
      · exact .inl previous
      · exact .inr ⟨0, candidate, rfl, ranked, work⟩
    · exact .inr ⟨offset + 1, other, place, ranked, by rw [work]; congr 1; omega⟩
  · obtain ⟨between, kept, early⟩ := before previous same
    obtain ⟨pair, last, late⟩ := later.before between kept
    exact ⟨pair, last, Rank.not_key_lt_trans late early⟩
  rcases mem_cons.mp member with rfl | behind
  · obtain ⟨between, kept, early⟩ := least rank ranked
    obtain ⟨pair, last, late⟩ := later.before between kept
    exact ⟨pair, last, Rank.not_key_lt_trans late early⟩
  · exact later.least other behind rank ranked

variable {candidates : List WorkCandidate}

theorem selectLoop_least (context : ScheduleContext) (index : Nat)
    (selected : Option (ScheduledWork × Rank))
    (valid : ∀ candidate ∈ candidates, scheduler.validateCandidate candidate = .ok ()) :
    ∃ found, scheduler.selectLoop context index selected candidates =
        .ok (found.map (·.1)) ∧ Least scheduler context index selected candidates found := by
  induction candidates generalizing index selected with
  | nil =>
    exact ⟨selected, rfl, fun pair same => .inl same, fun previous same =>
      ⟨previous, same, Rank.not_key_lt_self _⟩, nofun⟩
  | cons candidate rest ih =>
    have validRest : ∀ candidate ∈ rest, scheduler.validateCandidate candidate = .ok () :=
      fun other member => valid other (mem_cons_of_mem _ member)
    have same : ∀ previous : ScheduledWork × Rank, selected = some previous →
        ∃ pair, selected = some pair ∧ ¬ previous.2.key < pair.2.key :=
      fun previous kept => ⟨previous, kept, Rank.not_key_lt_self _⟩
    rw [selectLoop, valid candidate mem_cons_self]
    simp only [bind, Except.bind]
    cases ranked : scheduler.rank context candidate with
    | none =>
      obtain ⟨found, done, later⟩ := ih (index + 1) selected validRest
      exact ⟨found, done, later.cons (fun _ => .inl) same fun rank impossible => by
        rw [ranked] at impossible
        cases impossible⟩
    | some rank =>
      dsimp only
      by_cases better : selected.all fun best => rank.key < best.2.key
      · rw [if_pos better]
        obtain ⟨found, done, later⟩ := ih (index + 1) (some
          (⟨index, candidate.workId, candidate.nodeAddress, candidate.class_⟩, rank)) validRest
        refine ⟨found, done, later.cons (fun pair taken => .inr ?_) (fun previous kept => ?_)
          fun other found => ?_⟩
        · cases taken
          exact ⟨ranked, rfl⟩
        · rw [kept] at better
          exact ⟨_, rfl, Rank.not_key_lt_of_lt (of_decide_eq_true better)⟩
        · rw [ranked] at found
          cases found
          exact ⟨_, rfl, Rank.not_key_lt_self _⟩
      · rw [if_neg better]
        obtain ⟨found, done, later⟩ := ih (index + 1) selected validRest
        refine ⟨found, done, later.cons (fun _ => .inl) same fun other found => ?_⟩
        rw [ranked] at found
        cases found
        cases selected with
        | none => exact absurd rfl better
        | some previous => exact ⟨previous, rfl, fun below => better (decide_eq_true below)⟩

/-- The choice of `select` over candidates that pass the check. -/
theorem select_least_rank (context : ScheduleContext)
    (valid : ∀ candidate ∈ candidates, scheduler.validateCandidate candidate = .ok ()) :
    ∃ found : Option (ScheduledWork × Rank),
      scheduler.select context candidates = .ok (found.map (·.1)) ∧
      (∀ pair, found = some pair → ∃ candidate,
        candidates[pair.1.candidateIndex]? = some candidate ∧
        scheduler.rank context candidate = some pair.2 ∧
        pair.1 = ⟨pair.1.candidateIndex, candidate.workId, candidate.nodeAddress,
          candidate.class_⟩) ∧
      ∀ candidate ∈ candidates, ∀ rank, scheduler.rank context candidate = some rank →
        ∃ pair, found = some pair ∧ ¬ rank.key < pair.2.key := by
  obtain ⟨found, done, least⟩ := selectLoop_least context 0 none valid
  refine ⟨found, done, fun pair same => ?_, least.least⟩
  rcases least.source pair same with impossible | ⟨offset, candidate, place, ranked, work⟩
  · cases impossible
  · rw [Nat.zero_add] at work
    exact ⟨candidate, by rw [work]; exact place, ranked, by rw [work]⟩

/-- Two candidates of one rank are the same work. -/
theorem identity_of_rank {left right : WorkCandidate}
    (ranked : scheduler.rank context left = some rank)
    (same : scheduler.rank context right = some rank) :
    left.nodeAddress = right.nodeAddress ∧ left.workId = right.workId := by
  obtain ⟨address, work⟩ := (ranked_of_rank ranked).identity
  obtain ⟨address', work'⟩ := (ranked_of_rank same).identity
  exact ⟨address.symm.trans address', work.symm.trans work'⟩

theorem eq_of_identity {left right : WorkCandidate}
    (distinct : candidates.Pairwise fun left right =>
      (left.nodeAddress, left.workId) ≠ (right.nodeAddress, right.workId))
    (leftMember : left ∈ candidates) (rightMember : right ∈ candidates)
    (same : left.nodeAddress = right.nodeAddress ∧ left.workId = right.workId) : left = right := by
  refine List.Pairwise.forall_of_forall_of_flip
    (R := fun left right => left.nodeAddress = right.nodeAddress ∧ left.workId = right.workId →
      left = right) (fun _ _ _ => rfl) ?_ ?_ leftMember rightMember same
  · exact distinct.imp fun differ same => absurd (Prod.ext same.1 same.2) differ
  · exact distinct.imp fun differ same => absurd (Prod.ext same.1.symm same.2.symm) differ

/-- Where works differ in node or identifier, the scheduler chooses the eligible candidate
of least rank, whatever their order; it idles only when none is eligible, and imminent
overflow wins. -/
theorem select_chooses_least (scheduler : ChannelScheduler) (context : ScheduleContext)
    (candidates : List WorkCandidate)
    (valid : ∀ candidate ∈ candidates, scheduler.validateCandidate candidate = .ok ())
    (distinct : candidates.Pairwise fun left right =>
      (left.nodeAddress, left.workId) ≠ (right.nodeAddress, right.workId)) :
    ∃ choice, scheduler.select context candidates = .ok choice ∧
      (choice = none ↔ ∀ candidate ∈ candidates, ¬ candidate.Eligible context) ∧
      (∀ work, choice = some work → ∃ best rank,
        candidates[work.candidateIndex]? = some best ∧ best.Eligible context ∧
        work = ⟨work.candidateIndex, best.workId, best.nodeAddress, best.class_⟩ ∧
        scheduler.rank context best = some rank ∧
        ∀ other ∈ candidates, other.Eligible context → other ≠ best →
          ∃ behind, scheduler.rank context other = some behind ∧ rank.key < behind.key) ∧
      (∀ reordered : List WorkCandidate, reordered.Perm candidates →
        ∃ same, scheduler.select context reordered = .ok same ∧
          same.map (fun work => (work.nodeAddress, work.workId)) =
            choice.map (fun work => (work.nodeAddress, work.workId))) ∧
      ∀ candidate ∈ candidates, ∀ timeToOverflowUs,
        candidate.Overflowing scheduler.policy context timeToOverflowUs →
        ∃ work best least, choice = some work ∧
          candidates[work.candidateIndex]? = some best ∧ best.workId = work.workId ∧
          best.Overflowing scheduler.policy context least ∧
          ∀ other ∈ candidates, ∀ timeToOverflowUs,
            other.Overflowing scheduler.policy context timeToOverflowUs →
              least ≤ timeToOverflowUs := by
  obtain ⟨found, done, source, least⟩ := select_least_rank context valid
  have eligible : ∀ {candidate rank}, candidate ∈ candidates →
      scheduler.rank context candidate = some rank → candidate.Eligible context :=
    fun member ranked => (rank_ne_none_iff (valid _ member)).mp (by rw [ranked]; nofun)
  have ranks : ∀ candidate ∈ candidates, candidate.Eligible context →
      ∃ rank, scheduler.rank context candidate = some rank := fun candidate member may =>
    Option.ne_none_iff_exists'.mp ((rank_ne_none_iff (valid _ member)).mpr may)
  refine ⟨found.map (·.1), done, ⟨?_, ?_⟩, ?_, ?_, ?_⟩
  · intro idle candidate member may
    obtain ⟨rank, ranked⟩ := ranks candidate member may
    obtain ⟨pair, chosen, -⟩ := least candidate member rank ranked
    rw [chosen] at idle
    cases idle
  · intro idle
    cases chosen : found with
    | none => rfl
    | some pair =>
      obtain ⟨best, place, ranked, -⟩ := source pair chosen
      have member := List.mem_of_getElem? place
      exact absurd (eligible member ranked) (idle best member)
  · intro work chosen
    obtain ⟨pair, taken, rfl⟩ := Option.map_eq_some_iff.mp chosen
    obtain ⟨best, place, ranked, work⟩ := source pair taken
    have member := List.mem_of_getElem? place
    refine ⟨best, pair.2, place, eligible member ranked, work, ranked,
      fun other otherMember may apart => ?_⟩
    obtain ⟨behind, otherRanked⟩ := ranks other otherMember may
    obtain ⟨again, same, late⟩ := least other otherMember behind otherRanked
    obtain rfl : pair = again := Option.some.inj (taken.symm.trans same)
    refine ⟨behind, otherRanked, ?_⟩
    by_contra early
    obtain rfl : pair.2 = behind := Rank.eq_of_not_key_lt late early
    exact apart (eq_of_identity distinct otherMember member (identity_of_rank otherRanked ranked))
  · intro reordered permutation
    obtain ⟨other, otherDone, otherSource, otherLeast⟩ := select_least_rank context
      fun candidate member => valid candidate (permutation.mem_iff.mp member)
    refine ⟨other.map (·.1), otherDone, ?_⟩
    cases chosen : found with
    | none =>
      cases again : other with
      | none => rfl
      | some pair =>
        obtain ⟨best, place, ranked, -⟩ := otherSource pair again
        obtain ⟨first, same, -⟩ := least best
          (permutation.mem_iff.mp (List.mem_of_getElem? place)) pair.2 ranked
        rw [chosen] at same
        cases same
    | some pair =>
      obtain ⟨best, place, ranked, work⟩ := source pair chosen
      obtain ⟨second, again, late⟩ := otherLeast best
        (permutation.mem_iff.mpr (List.mem_of_getElem? place)) pair.2 ranked
      obtain ⟨otherBest, otherPlace, otherRanked, otherWork⟩ := otherSource second again
      obtain ⟨first, same, early⟩ := least otherBest
        (permutation.mem_iff.mp (List.mem_of_getElem? otherPlace)) second.2 otherRanked
      obtain rfl : pair = first := Option.some.inj (chosen.symm.trans same)
      have ranks : pair.2 = second.2 := Rank.eq_of_not_key_lt early late
      rw [ranks] at ranked
      obtain ⟨address, identifier⟩ := identity_of_rank ranked otherRanked
      rw [again, Option.map_some, Option.map_some, Option.map_some, Option.map_some, work,
        otherWork]
      simp only [address, identifier]
  · intro candidate member timeToOverflowUs overflowing
    obtain ⟨rank, ranked⟩ := ranks candidate member overflowing.eligible
    obtain ⟨pair, chosen, late⟩ := least candidate member rank ranked
    obtain ⟨best, place, bestRanked, work⟩ := source pair chosen
    have bestMember := List.mem_of_getElem? place
    obtain ⟨urgent, -⟩ := (ranked_of_rank ranked).tier_of_within overflowing.estimate
      overflowing.within
    obtain ⟨tier, -⟩ := Rank.urgent_of_not_key_lt late urgent
    obtain ⟨estimate, within⟩ := (ranked_of_rank bestRanked).urgent tier
    refine ⟨pair.1, best, pair.2.primary, by rw [chosen]; rfl, place, by rw [work],
      ⟨(eligible bestMember bestRanked).ready,
        measurement_of_validate (valid _ bestMember) estimate, estimate, within⟩,
      fun other otherMember otherTime otherOverflowing => ?_⟩
    obtain ⟨behind, otherRanked⟩ := ranks other otherMember otherOverflowing.eligible
    obtain ⟨first, same, early⟩ := least other otherMember behind otherRanked
    obtain rfl : pair = first := Option.some.inj (chosen.symm.trans same)
    obtain ⟨otherUrgent, primary⟩ := (ranked_of_rank otherRanked).tier_of_within
      otherOverflowing.estimate otherOverflowing.within
    rw [← primary]
    exact (Rank.urgent_of_not_key_lt early otherUrgent).2

/-- A control request and a measurement about to overflow. -/
theorem select_chooses_least_of_overflow :
    ∃ choice, (⟨⟨⟨500, by decide⟩, ⟨1000, by decide⟩⟩⟩ : ChannelScheduler).select
        ⟨100, .production, 0⟩
        [⟨1, 4, .control, 0, some 900, 0, none, ⟨10, by decide⟩⟩,
          ⟨2, 5, .measurement, 0, some 900, 0, some 400, ⟨10, by decide⟩⟩] = .ok choice ∧
      choice.map (·.workId) = some 2 := by
  obtain ⟨choice, done, -, -, -, overflow⟩ := select_chooses_least
    ⟨⟨⟨500, by decide⟩, ⟨1000, by decide⟩⟩⟩ ⟨100, .production, 0⟩
    [⟨1, 4, .control, 0, some 900, 0, none, ⟨10, by decide⟩⟩,
      ⟨2, 5, .measurement, 0, some 900, 0, some 400, ⟨10, by decide⟩⟩] (by decide) (by decide)
  refine ⟨choice, done, ?_⟩
  obtain ⟨work, best, least, chosen, place, same, overflowing, -⟩ :=
    overflow _ (List.mem_cons_of_mem _ List.mem_cons_self) 400
      ⟨by decide, rfl, rfl, by decide⟩
  rw [chosen, Option.map_some, ← same]
  have member := List.mem_of_getElem? place
  simp only [List.mem_cons, List.not_mem_nil, or_false] at member
  rcases member with rfl | rfl
  · exact absurd overflowing.measurement (by decide)
  · rfl

end ChannelScheduler
end SensorSystem.Host
