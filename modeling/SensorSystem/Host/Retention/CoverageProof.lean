import Mathlib.Data.List.Sort
import SensorSystem.Host.Retention.ArchiveCoverage

/-! The proof is given for exactly the lists of products whose spans cut the segment into pieces,
it names the products that have such a span, and the order of the list has no part in it. -/

namespace SensorSystem.Host

open List Base

def CoveredSpan.first (span : CoveredSpan) : Nat := span.1.firstCursor.toNat

def CoveredSpan.stop (span : CoveredSpan) : Nat := span.1.endExclusive.toNat

def ReplicatedArchiveCoverage.Contributes (evidence : ReplicatedArchiveCoverage)
    (segment : SegmentKey) : Prop :=
  ∃ input ∈ evidence.index.inputs, input.segment = segment

/-- Trustworthy products that together hold the segment once. -/
structure CoversSegment (segment : SegmentKey) (products : List ReplicatedArchiveCoverage) :
    Prop where
  valid : ∀ evidence ∈ products,
    evidence.index.validate = .ok () ∧ evidence.verifiedAt ≤ evidence.acknowledgedAt
  distinct : (products.map (·.productId)).Nodup
  current : ∀ evidence ∈ products, ∀ other ∈ products,
    evidence.index.revision.supersedesProductId ≠ some other.productId
  partitions : Partitions CoveredSpan.first CoveredSpan.stop segment.firstCursor.toNat
    segment.endExclusive.toNat (products.flatMap (·.spans segment))

/-- What a proof says about the products it was made from. -/
structure CaptureCoverageProof.Describes (proof : CaptureCoverageProof) (segment : SegmentKey)
    (products : List ReplicatedArchiveCoverage) : Prop where
  about : proof.segment = segment
  distinct : proof.archiveProducts.Nodup
  contributors : ∀ archive, archive ∈ proof.archiveProducts ↔
    ∃ evidence ∈ products, evidence.Contributes segment ∧ evidence.index.archive = archive
  latest : ∃ evidence ∈ products,
    evidence.Contributes segment ∧ evidence.acknowledgedAt = proof.fullyReplicatedAt
  replicated : ∀ evidence ∈ products, evidence.Contributes segment →
    evidence.acknowledgedAt ≤ proof.fullyReplicatedAt

variable {others : List ReplicatedArchiveCoverage} {archives : List ArchiveIdentity}
  {spans : List CoveredSpan}

theorem CoversSegment.perm {segment : SegmentKey} {products : List ReplicatedArchiveCoverage}
    (covers : CoversSegment segment products) (same : products.Perm others) :
    CoversSegment segment others where
  valid evidence member := covers.valid evidence (same.mem_iff.mpr member)
  distinct := (same.map _).nodup_iff.mp covers.distinct
  current evidence member other also :=
    covers.current evidence (same.mem_iff.mpr member) other (same.mem_iff.mpr also)
  partitions := covers.partitions.perm (same.flatMap_right _)

theorem validateSegment_eq_ok {segment : SegmentKey} (valid : validateSegment segment = .ok ()) :
    segment.firstCursor < segment.endExclusive := by
  obtain ⟨sound, -⟩ := guard_eq_ok.mp valid
  exact UInt64.not_le.mp fun below => sound (.inr (.inr below))

variable {hardwareId : HardwareId} {partition : ArchivePartition} {time : TrustedUnixSeconds}
  {gathered : CoverageEvidence}

theorem validateSpan_eq_ok {span : ArchiveInputSpan}
    (valid : validateSpan hardwareId partition span = .ok ()) :
    span.firstCursor < span.endExclusive := by
  obtain ⟨-, rest⟩ := check_eq_ok.mp valid
  obtain ⟨-, rest⟩ := guard_eq_ok.mp rest
  obtain ⟨inside, -⟩ := guard_eq_ok.mp rest
  exact UInt64.not_le.mp fun below => inside (.inr (.inr below))

theorem validateInputs_eq_ok {earlier inputs : List ArchiveInputSpan}
    (valid : validateInputs hardwareId partition earlier inputs = .ok ()) :
    ∀ input ∈ inputs, input.firstCursor < input.endExclusive := by
  induction inputs generalizing earlier with
  | nil => exact nofun
  | cons input rest ih =>
    obtain ⟨checked, later⟩ := check_eq_ok.mp valid
    obtain ⟨-, later⟩ := guard_eq_ok.mp later
    intro other member
    rcases mem_cons.mp member with rfl | member
    · exact validateSpan_eq_ok checked
    · exact ih later other member

theorem ArchiveCoverageIndex.validate_eq_ok {index : ArchiveCoverageIndex}
    (valid : index.validate = .ok ()) :
    ∀ input ∈ index.inputs, input.firstCursor < input.endExclusive := by
  obtain ⟨-, rest⟩ := check_eq_ok.mp valid
  obtain ⟨-, rest⟩ := guard_eq_ok.mp rest
  obtain ⟨-, rest⟩ := check_eq_ok.mp rest
  obtain ⟨-, rest⟩ := check_eq_ok.mp rest
  obtain ⟨-, rest⟩ := guard_eq_ok.mp rest
  obtain ⟨-, rest⟩ := guard_eq_ok.mp rest
  exact validateInputs_eq_ok rest

namespace ReplicatedArchiveCoverage

variable {evidence : ReplicatedArchiveCoverage}

theorem mem_spans {segment : SegmentKey} {span : CoveredSpan} : span ∈ evidence.spans segment ↔
      span.1 ∈ evidence.index.inputs ∧ span.1.segment = segment ∧
        span.2 = evidence.index.archive := by
  unfold spans
  rw [mem_map]
  constructor
  · rintro ⟨input, member, rfl⟩
    obtain ⟨listed, named⟩ := mem_filter.mp member
    exact ⟨listed, of_decide_eq_true named, rfl⟩
  · rintro ⟨listed, named, archive⟩
    exact ⟨span.1, mem_filter.mpr ⟨listed, decide_eq_true named⟩, by rw [← archive]⟩

theorem spans_eq_nil {segment : SegmentKey} :
    evidence.spans segment = [] ↔ ¬ evidence.Contributes segment := by
  rw [eq_nil_iff_forall_not_mem]
  constructor
  · rintro empty ⟨input, listed, named⟩
    exact empty (input, evidence.index.archive) (mem_spans.mpr ⟨listed, named, rfl⟩)
  · intro absent span member
    obtain ⟨listed, named, -⟩ := mem_spans.mp member
    exact absent ⟨span.1, listed, named⟩

end ReplicatedArchiveCoverage

/-- The acknowledgement times of the products that hold part of the segment. -/
def contributingAcks (segment : SegmentKey) (products : List ReplicatedArchiveCoverage) :
    List TrustedUnixSeconds :=
  (products.filter (·.spans segment ≠ [])).map (·.acknowledgedAt)

theorem mem_contributingAcks {segment : SegmentKey} {products : List ReplicatedArchiveCoverage} :
    time ∈ contributingAcks segment products ↔
      ∃ evidence ∈ products, evidence.Contributes segment ∧ evidence.acknowledgedAt = time := by
  simp only [contributingAcks, mem_map, mem_filter, decide_eq_true_eq, ne_eq,
    ReplicatedArchiveCoverage.spans_eq_nil, not_not, and_assoc]

theorem max_eq_or (one other : TrustedUnixSeconds) :
    max one other = one ∨ max one other = other := by
  rw [show max one other = if one ≤ other then other else one from rfl]
  split
  · exact .inr rfl
  · exact .inl rfl

instance : Std.LawfulOrderMax TrustedUnixSeconds := by
  refine .of_max_le_iff (fun one other bound => ?_) max_eq_or
  rw [show max one other = if one ≤ other then other else one from rfl]
  split <;> simp only [UInt64.le_iff_toNat_le] at * <;> omega

theorem max?_concat (times : List TrustedUnixSeconds) (time : TrustedUnixSeconds) :
    (times ++ [time]).max? = some ((times.max?.map (max · time)).getD time) := by
  cases times with
  | nil => rfl
  | cons first rest =>
    rw [cons_append, max?_cons', max?_cons', foldl_append]
    rfl

/-- What is gathered from a list of products that pass. -/
def CoverageEvidence.of (segment : SegmentKey) (products : List ReplicatedArchiveCoverage) :
    CoverageEvidence where
  covered := products.flatMap (·.spans segment)
  productIds := products.map (·.productId)
  latestAck := (contributingAcks segment products).max?

theorem CoverageEvidence.of_concat (segment : SegmentKey)
    (products : List ReplicatedArchiveCoverage) (evidence : ReplicatedArchiveCoverage) :
    of segment (products ++ [evidence]) =
      { covered := (of segment products).covered ++ evidence.spans segment
        productIds := (of segment products).productIds ++ [evidence.productId]
        latestAck := if evidence.spans segment = [] then (of segment products).latestAck
          else some (((of segment products).latestAck.map
            (max · evidence.acknowledgedAt)).getD evidence.acknowledgedAt) } := by
  have acks : (contributingAcks segment (products ++ [evidence])).max? =
      if evidence.spans segment = [] then (contributingAcks segment products).max?
      else some (((contributingAcks segment products).max?.map
        (max · evidence.acknowledgedAt)).getD evidence.acknowledgedAt) := by
    by_cases empty : evidence.spans segment = []
    · simp [contributingAcks, empty]
    rw [if_neg empty, ← max?_concat]
    simp [contributingAcks, empty]
  simp [of, acks]

theorem gatherEvidence_eq_ok {segment : SegmentKey}
    {passed products : List ReplicatedArchiveCoverage}
    (distinct : (passed.map (·.productId)).Nodup) :
    gatherEvidence segment (.of segment passed) products = .ok gathered ↔
      (∀ evidence ∈ products,
        evidence.index.validate = .ok () ∧ evidence.verifiedAt ≤ evidence.acknowledgedAt) ∧
      ((passed ++ products).map (·.productId)).Nodup ∧
      gathered = .of segment (passed ++ products) := by
  induction products generalizing passed with
  | nil => simp [gatherEvidence, distinct, eq_comm]
  | cons evidence rest ih =>
    have step : gatherEvidence segment (.of segment passed) (evidence :: rest) = .ok gathered ↔
        evidence.index.validate = .ok () ∧ evidence.verifiedAt ≤ evidence.acknowledgedAt ∧
        evidence.productId ∉ passed.map (·.productId) ∧
        gatherEvidence segment (.of segment (passed ++ [evidence])) rest = .ok gathered := by
      rw [CoverageEvidence.of_concat, gatherEvidence, check_eq_ok, guard_eq_ok, guard_eq_ok,
        UInt64.not_lt]
      rfl
    have front : evidence.productId ∉ passed.map (·.productId) ↔
        ((passed ++ [evidence]).map (·.productId)).Nodup := by
      rw [map_append, ← nodup_cons.trans (and_iff_left distinct)]
      exact (perm_append_singleton _ _).nodup_iff.symm
    rw [step, front, append_cons passed evidence rest]
    constructor
    · rintro ⟨valid, order, fresh, later⟩
      obtain ⟨others, unique, rfl⟩ := (ih fresh).mp later
      exact ⟨forall_mem_cons.mpr ⟨⟨valid, order⟩, others⟩, unique, rfl⟩
    rintro ⟨others, unique, rfl⟩
    obtain ⟨⟨valid, order⟩, others⟩ := forall_mem_cons.mp others
    have fresh : ((passed ++ [evidence]).map (·.productId)).Nodup := by
      rw [map_append] at unique
      exact (nodup_append.mp unique).1
    exact ⟨valid, order, fresh, (ih fresh).mpr ⟨others, unique, rfl⟩⟩

theorem gatherEvidence_all {segment : SegmentKey} {products : List ReplicatedArchiveCoverage} :
    gatherEvidence segment {} products = .ok gathered ↔
      (∀ evidence ∈ products,
        evidence.index.validate = .ok () ∧ evidence.verifiedAt ≤ evidence.acknowledgedAt) ∧
      (products.map (·.productId)).Nodup ∧ gathered = .of segment products := by
  have start : (([] : List ReplicatedArchiveCoverage).map (·.productId)).Nodup := .nil
  exact gatherEvidence_eq_ok start

/-- The products of a list of spans, each where it first appears. -/
def listArchives : List ArchiveIdentity → List CoveredSpan → List ArchiveIdentity
  | archives, [] => archives
  | archives, (_, archive) :: rest =>
    listArchives (if archive ∈ archives then archives else archives ++ [archive]) rest

theorem mem_listArchives {archive : ArchiveIdentity} : archive ∈ listArchives archives spans ↔
      archive ∈ archives ∨ ∃ span ∈ spans, span.2 = archive := by
  induction spans generalizing archives with
  | nil => simp [listArchives]
  | cons span rest ih =>
    have added : archive ∈ (if span.2 ∈ archives then archives else archives ++ [span.2]) ↔
        archive ∈ archives ∨ span.2 = archive := by
      by_cases known : span.2 ∈ archives
      · rw [if_pos known]
        exact ⟨Or.inl, fun either => either.elim id (· ▸ known)⟩
      · rw [if_neg known, mem_append, mem_singleton, eq_comm]
    rw [exists_mem_cons_iff, ← or_assoc, ← added]
    exact ih

theorem nodup_listArchives (distinct : archives.Nodup) : (listArchives archives spans).Nodup := by
  induction spans generalizing archives with
  | nil => exact distinct
  | cons span rest ih =>
    refine ih ?_
    by_cases known : span.2 ∈ archives
    · rw [if_pos known]
      exact distinct
    rw [if_neg known]
    exact (perm_append_singleton _ _).nodup_iff.mpr (nodup_cons.mpr ⟨known, distinct⟩)

theorem followSpans_eq_ok {expected finish : SequenceCursor} {found : List ArchiveIdentity}
    (nonempty : ∀ span ∈ spans, span.first < span.stop) :
    followSpans expected archives spans = .ok (finish, found) ↔
      Tiles CoveredSpan.first CoveredSpan.stop expected.toNat finish.toNat spans ∧
        found = listArchives archives spans := by
  induction spans generalizing expected archives with
  | nil =>
    rw [Tiles.nil_iff, UInt64.toNat_inj]
    unfold followSpans listArchives
    grind
  | cons span rest ih =>
    obtain ⟨here, later⟩ := forall_mem_cons.mp nonempty
    rw [Tiles.cons_iff, followSpans, guard_eq_ok, guard_eq_ok, ih later, ← and_assoc]
    have begins : ¬ span.1.firstCursor < expected ∧ ¬ span.1.firstCursor > expected ↔
        span.first = expected.toNat := by
      simp only [gt_iff_lt, UInt64.lt_iff_toNat_lt, CoveredSpan.first]
      omega
    rw [begins]
    constructor
    · rintro ⟨first, tiles, rfl⟩
      exact ⟨⟨first, here, tiles⟩, rfl⟩
    · rintro ⟨⟨first, -, tiles⟩, rfl⟩
      exact ⟨first, tiles, rfl⟩

variable {sorter : SpanSort} {segment : SegmentKey} {products : List ReplicatedArchiveCoverage}
  {proof : CaptureCoverageProof}

theorem spans_nonempty (valid : ∀ evidence ∈ products, evidence.index.validate = .ok () ∧
    evidence.verifiedAt ≤ evidence.acknowledgedAt) {span : CoveredSpan}
    (member : span ∈ products.flatMap (·.spans segment)) : span.first < span.stop := by
  obtain ⟨evidence, listed, member⟩ := mem_flatMap.mp member
  obtain ⟨input, -, -⟩ := ReplicatedArchiveCoverage.mem_spans.mp member
  exact UInt64.lt_iff_toNat_lt.mp
    (ArchiveCoverageIndex.validate_eq_ok (valid evidence listed).1 span.1 input)

/-- Sorted, the spans follow each other exactly if they cut. -/
theorem sort_tiles_iff {start finish : Nat} (ordered : start ≤ finish) (spans : List CoveredSpan) :
    Tiles CoveredSpan.first CoveredSpan.stop start finish (sorter.sort spans) ↔
      Partitions CoveredSpan.first CoveredSpan.stop start finish spans := by
  constructor
  · intro tiles
    exact (Partitions.of_tiles tiles).perm (sorter.perm spans)
  · intro partitions
    refine (partitions.perm (sorter.perm spans).symm).tiles ordered ?_
    exact (sorter.sorted spans).imp UInt64.le_iff_toNat_le.mp

theorem CoversSegment.spans_ne_nil (covers : CoversSegment segment products)
    (valid : validateSegment segment = .ok ()) : products.flatMap (·.spans segment) ≠ [] := by
  intro empty
  have below := UInt64.lt_iff_toNat_lt.mp (validateSegment_eq_ok valid)
  obtain ⟨span, member, -⟩ := covers.partitions.covers _ (Nat.le_refl _) below
  rw [empty] at member
  cases member

theorem CoversSegment.acked (covers : CoversSegment segment products)
    (valid : validateSegment segment = .ok ()) :
    ∃ time, (contributingAcks segment products).max? = some time := by
  obtain ⟨span, member⟩ := exists_mem_of_ne_nil _ (covers.spans_ne_nil valid)
  obtain ⟨evidence, listed, member⟩ := mem_flatMap.mp member
  obtain ⟨input, named, -⟩ := ReplicatedArchiveCoverage.mem_spans.mp member
  refine Option.ne_none_iff_exists'.mp fun none => ?_
  have absent := max?_eq_none_iff.mp none
  have present : evidence.acknowledgedAt ∈ contributingAcks segment products :=
    mem_contributingAcks.mpr ⟨evidence, listed, ⟨span.1, input, named⟩, rfl⟩
  rw [absent] at present
  cases present

theorem proveCaptureCoverage_eq_ok (valid : validateSegment segment = .ok ()) :
    proveCaptureCoverage sorter segment products = .ok proof ↔
      CoversSegment segment products ∧ ∃ time,
        (contributingAcks segment products).max? = some time ∧
        proof = ⟨segment, listArchives [] (sorter.sort (products.flatMap (·.spans segment))),
          time⟩ := by
  have ordered := Nat.le_of_lt (UInt64.lt_iff_toNat_lt.mp (validateSegment_eq_ok valid))
  have current : (products.any fun evidence => evidence.index.revision.supersedesProductId.any
      (· ∈ products.map (·.productId))) = false ↔
      ∀ evidence ∈ products, ∀ other ∈ products,
        evidence.index.revision.supersedesProductId ≠ some other.productId := by
    simp only [any_eq_false, Option.any_eq_true, not_exists, not_and, decide_eq_true_eq,
      mem_map]
    grind
  unfold proveCaptureCoverage
  rw [check_eq_ok, bind_eq_ok]
  constructor
  · rintro ⟨-, gathered, gathers, proves⟩
    obtain ⟨sound, distinct, rfl⟩ := gatherEvidence_all.mp gathers
    obtain ⟨clear, proves⟩ := guard_eq_ok.mp proves
    obtain ⟨-, proves⟩ := guard_eq_ok.mp proves
    obtain ⟨⟨finish, archives⟩, follows, proves⟩ := bind_eq_ok.mp proves
    obtain ⟨complete, proves⟩ := guard_eq_ok.mp proves
    obtain rfl : finish = segment.endExclusive := not_not.mp complete
    obtain ⟨tiles, rfl⟩ := (followSpans_eq_ok fun span member =>
      spans_nonempty sound ((sorter.perm _).mem_iff.mp member)).mp follows
    refine ⟨⟨sound, distinct, current.mp (Bool.eq_false_iff.mpr clear),
      (sort_tiles_iff ordered _).mp tiles⟩, ?_⟩
    cases latest : (contributingAcks segment products).max? with
    | none => simp [CoverageEvidence.of, latest] at proves
    | some time =>
      refine ⟨time, rfl, ?_⟩
      simpa [CoverageEvidence.of, latest, eq_comm] using proves
  · rintro ⟨covers, time, latest, rfl⟩
    have gathers : gatherEvidence segment {} products = .ok (.of segment products) :=
      gatherEvidence_all.mpr ⟨covers.valid, covers.distinct, rfl⟩
    refine ⟨valid, _, gathers, guard_eq_ok.mpr ⟨?_, guard_eq_ok.mpr
      ⟨covers.spans_ne_nil valid, ?_⟩⟩⟩
    · exact Bool.eq_false_iff.mp (current.mpr covers.current)
    refine bind_eq_ok.mpr ⟨_, (followSpans_eq_ok fun span member => ?_).mpr
      ⟨(sort_tiles_iff ordered _).mpr covers.partitions, rfl⟩, ?_⟩
    · exact spans_nonempty covers.valid ((sorter.perm _).mem_iff.mp member)
    · simp [CoverageEvidence.of, latest]

theorem proof_describes (valid : validateSegment segment = .ok ())
    (proves : proveCaptureCoverage sorter segment products = .ok proof) :
    proof.Describes segment products := by
  obtain ⟨covers, time, latest, rfl⟩ := (proveCaptureCoverage_eq_ok valid).mp proves
  obtain ⟨member, greatest⟩ := max?_eq_some_iff.mp latest
  refine ⟨rfl, nodup_listArchives .nil, ?_, mem_contributingAcks.mp member, ?_⟩
  · intro archive
    rw [mem_listArchives]
    constructor
    · rintro (absent | ⟨span, member, rfl⟩)
      · cases absent
      obtain ⟨evidence, listed, member⟩ :=
        mem_flatMap.mp ((sorter.perm _).mem_iff.mp member)
      obtain ⟨input, named, archive⟩ := ReplicatedArchiveCoverage.mem_spans.mp member
      exact ⟨evidence, listed, ⟨span.1, input, named⟩, archive.symm⟩
    rintro ⟨evidence, listed, ⟨input, member, named⟩, rfl⟩
    refine .inr ⟨(input, evidence.index.archive), (sorter.perm _).mem_iff.mpr ?_, rfl⟩
    exact mem_flatMap.mpr ⟨evidence, listed,
      ReplicatedArchiveCoverage.mem_spans.mpr ⟨member, named, rfl⟩⟩
  · intro evidence listed contributes
    exact greatest _ (mem_contributingAcks.mpr ⟨evidence, listed, contributes, rfl⟩)

/-- The pieces of a segment have one order only. -/
theorem sort_eq_of_perm (sorter' : SpanSort) (valid : validateSegment segment = .ok ())
    (covers : CoversSegment segment products) (same : products.Perm others) :
    sorter'.sort (others.flatMap (·.spans segment)) =
      sorter.sort (products.flatMap (·.spans segment)) := by
  have ordered := Nat.le_of_lt (UInt64.lt_iff_toNat_lt.mp (validateSegment_eq_ok valid))
  refine ((sort_tiles_iff ordered _).mpr (covers.perm same).partitions).eq_of_perm
    ((sort_tiles_iff ordered _).mpr covers.partitions) ?_
  exact (sorter'.perm _).trans ((same.flatMap_right _).symm.trans (sorter.perm _).symm)

theorem contributingAcks_max?_perm (same : products.Perm others)
    (latest : (contributingAcks segment products).max? = some time) :
    (contributingAcks segment others).max? = some time := by
  obtain ⟨member, greatest⟩ := max?_eq_some_iff.mp latest
  have acks : (contributingAcks segment products).Perm (contributingAcks segment others) :=
    (same.filter _).map _
  exact max?_eq_some_iff.mpr ⟨acks.mem_iff.mp member, fun ack listed =>
    greatest ack (acks.mem_iff.mpr listed)⟩

theorem proveCaptureCoverage_perm (sorter' : SpanSort) (valid : validateSegment segment = .ok ())
    (same : products.Perm others)
    (proves : proveCaptureCoverage sorter segment products = .ok proof) :
    proveCaptureCoverage sorter' segment others = .ok proof := by
  obtain ⟨covers, time, latest, rfl⟩ := (proveCaptureCoverage_eq_ok valid).mp proves
  refine (proveCaptureCoverage_eq_ok valid).mpr ⟨covers.perm same, time,
    contributingAcks_max?_perm same latest, ?_⟩
  rw [sort_eq_of_perm sorter' valid covers same]

/-- A proof is given exactly when the products cover the segment. It names the products
that do and the last acknowledgement among them, and it is the same for every order of
the list and every way to sort the spans. -/
theorem proveCaptureCoverage_sound_complete (sorter sorter' : SpanSort) (segment : SegmentKey)
    (products others : List ReplicatedArchiveCoverage)
    (valid : validateSegment segment = .ok ()) (same : products.Perm others) :
    ((∃ proof, proveCaptureCoverage sorter segment products = .ok proof) ↔
      CoversSegment segment products) ∧
    (∀ proof, proveCaptureCoverage sorter segment products = .ok proof →
      proof.Describes segment products) ∧
    ∀ proof, proveCaptureCoverage sorter segment products = .ok proof ↔
      proveCaptureCoverage sorter' segment others = .ok proof := by
  refine ⟨?_, fun proof => proof_describes valid, fun proof => ⟨?_, ?_⟩⟩
  · constructor
    · rintro ⟨proof, proves⟩
      exact ((proveCaptureCoverage_eq_ok valid).mp proves).1
    · intro covers
      obtain ⟨time, latest⟩ := covers.acked valid
      exact ⟨_, (proveCaptureCoverage_eq_ok valid).mpr ⟨covers, time, latest, rfl⟩⟩
  · exact proveCaptureCoverage_perm sorter' valid same
  · exact proveCaptureCoverage_perm sorter valid same.symm

/-- Insertion sort by the first cursor. -/
def insertionSpanSort : SpanSort where
  sort := insertionSort fun earlier later => earlier.1.firstCursor ≤ later.1.firstCursor
  perm := perm_insertionSort _
  sorted spans := by
    have : Std.Total fun earlier later : CoveredSpan =>
        earlier.1.firstCursor ≤ later.1.firstCursor := ⟨fun _ _ => UInt64.le_total _ _⟩
    have : IsTrans CoveredSpan fun earlier later =>
        earlier.1.firstCursor ≤ later.1.firstCursor := ⟨fun _ _ _ => UInt64.le_trans⟩
    exact pairwise_insertionSort _ spans

/-- The hour product that holds a part of the segment of node 7. -/
def hourProduct (id : UInt8) (segment : SegmentKey) (first stop : SequenceCursor)
    (acknowledgedAt : TrustedUnixSeconds) : ReplicatedArchiveCoverage where
  index :=
    { archive := ⟨Vector.replicate 16 id, Vector.replicate 32 id⟩
      hardwareId := Vector.replicate 8 7
      partition := .utcHour 7200
      revision := ⟨0, none⟩
      inputs := [⟨segment, first, stop⟩] }
  verifiedAt := 10
  acknowledgedAt := acknowledgedAt

def nodeSegment : SegmentKey := ⟨Vector.replicate 8 7, 1, 0, 0, 20⟩

theorem proveCaptureCoverage_two_hours : let early := hourProduct 1 nodeSegment 0 12 30
    let late := hourProduct 2 nodeSegment 12 20 25
    proveCaptureCoverage insertionSpanSort nodeSegment [early, late] =
      .ok ⟨nodeSegment, [early.index.archive, late.index.archive], 30⟩ ∧
    proveCaptureCoverage insertionSpanSort nodeSegment [late, early] =
      .ok ⟨nodeSegment, [early.index.archive, late.index.archive], 30⟩ := by
  intro early late
  have proves : proveCaptureCoverage insertionSpanSort nodeSegment [early, late] =
      .ok ⟨nodeSegment, [early.index.archive, late.index.archive], 30⟩ := by decide
  exact ⟨proves, ((proveCaptureCoverage_sound_complete insertionSpanSort insertionSpanSort
    nodeSegment [early, late] [late, early] (by decide) (.swap late early [])).2.2 _).mp proves⟩

end SensorSystem.Host
