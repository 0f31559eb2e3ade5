import SensorSystem.Node.Protocol.EndpointLedger
import SensorSystem.System.FramingAgreement

/-! The bytes that the transport endpoint of the node starts to send, as the decoder of the host
reads them. -/

namespace SensorSystem.System.Framing

open Host List
open Node (QueuedResponse ResponseEvent TransportEndpoint DeliveryLimits)
open Host.Framing (StreamDecoder)

/-- A response with the bytes that were put on the wire for it. -/
def started? : ResponseEvent → Option (QueuedResponse × List UInt8)
  | .started response wire => some (response, wire)
  | _ => none

/-- What the host reads is the frame of the response. -/
def Reads (event : Except Framing.FrameError Framing.Frame)
    (sent : QueuedResponse × List UInt8) : Prop :=
  ∃ frame, event = .ok frame ∧ SameFrame frame sent.1.frame

/-- The bytes are the encoding of a valid frame. -/
def Sends (sent : QueuedResponse × List UInt8) : Prop :=
  ∃ frame : Framing.Frame,
    frame.Valid ∧ SameFrame frame sent.1.frame ∧ sent.2 = frame.wire

def Encoded (events : List ResponseEvent) : Prop := ∀ sent ∈ events.filterMap started?, Sends sent

theorem Encoded.append {first second : List ResponseEvent} (one : Encoded first)
    (two : Encoded second) : Encoded (first ++ second) := by
  intro sent member
  rw [filterMap_append, mem_append] at member
  exact member.elim (one sent) (two sent)

theorem encoded_of_none {events : List ResponseEvent}
    (none : ∀ event ∈ events, started? event = none) : Encoded events := by
  intro sent member
  obtain ⟨event, there, shown⟩ := mem_filterMap.mp member
  rw [none event there] at shown
  cases shown

theorem encoded_nil : Encoded [] := encoded_of_none (by simp)

/-- A frame that the node encodes is one of the host. -/
theorem exists_wire {frame : Node.Framing.Frame} {buffer : List UInt8} {size : Nat}
    {wire : Option (List UInt8)}
    (encoded : Node.Framing.encode frame (some buffer) = (.ok, size, wire)) :
    ∃ host : Framing.Frame,
      host.Valid ∧ SameFrame host frame ∧ (wire.getD []).take size = host.wire := by
  have accepted := congrArg Prod.fst encoded
  simp only [Node.Framing.encode] at accepted
  have valid : Node.Framing.validate frame = .ok := by
    by_contra refused
    rw [if_pos refused] at accepted
    exact refused accepted
  rw [if_neg (not_not.mpr valid)] at accepted
  have room : Framing.maxWireFrameBytes ≤ buffer.length := by
    by_contra small
    have short : buffer.length < Node.Framing.maxWireFrameBytes := Nat.not_le.mp small
    rw [if_pos short] at accepted
    cases accepted
  obtain ⟨host, same⟩ := exists_host valid
  obtain ⟨size', written, again, layout⟩ := same.encode_eq valid room
  obtain ⟨rfl, rfl⟩ := Prod.mk.inj (Prod.mk.inj (encoded.symm.trans again)).2
  exact ⟨host, same.valid_iff.mpr valid, same, layout⟩

variable {capacity : Nat} {limits : DeliveryLimits} {σ : Type}
  (endpoint : TransportEndpoint capacity limits σ)

theorem encoded_settlement (completion : Node.TransmissionCompletion) (transmitted : Bool) :
    Encoded (Node.settlement completion transmitted) := by
  apply encoded_of_none
  rw [Node.settlement]
  split <;> simp [started?]

theorem encoded_dropFront : Encoded endpoint.dropFront.2 := by
  rw [TransportEndpoint.dropFront]
  dsimp only
  rw [TransportEndpoint.settleTransmission_events]
  exact (encoded_settlement _ _).append (encoded_of_none (by simp [started?]))

variable (nowUs : UInt64)

theorem encoded_tryStartTx (busy starts : Bool) :
    Encoded (endpoint.tryStartTx nowUs busy starts).2.2 := by
  rw [TransportEndpoint.tryStartTx]
  split
  · exact encoded_nil
  split
  · exact encoded_nil
  split
  · exact encoded_nil
  dsimp only
  split
  · exact encoded_dropFront _
  split
  · rename_i size wire encoded
    split
    · exact encoded_nil
    obtain ⟨frame, valid, same, layout⟩ := exists_wire encoded
    intro sent member
    obtain rfl := mem_singleton.mp (member : sent ∈ [_])
    refine ⟨frame, valid, ?_, layout⟩
    have positive : 0 < capacity := Nat.zero_lt_of_lt endpoint.outbox.headBounded
    change SameFrame frame (QueuedResponse.frame
      (Base.Ring.get (Base.Ring.set endpoint.outbox 0 _) 0))
    rw [endpoint.outbox.get_slots_set 0 _ positive positive, if_pos rfl]
    exact same
  · exact encoded_dropFront _

theorem encoded_serviceActiveTx (answers : Node.PortAnswers) :
    Encoded (endpoint.serviceActiveTx nowUs answers).2 := by
  have ended (event : ResponseEvent) (silent : started? event = none)
      (endpoint : TransportEndpoint capacity limits σ) (transmitted : Bool) :
      Encoded (event :: (endpoint.settleActiveTransmission transmitted).2) := by
    rw [(endpoint.settleActiveTransmission_spec transmitted).1]
    have first : Encoded [event] := encoded_of_none (by simpa using silent)
    exact first.append (encoded_settlement _ _)
  rw [TransportEndpoint.serviceActiveTx]
  split
  · exact encoded_nil
  split
  · exact ended .completed rfl _ true
  split
  · exact ended .aborted rfl _ false
  · exact encoded_nil

theorem encoded_receiveByte (byte : UInt8) :
    Encoded (endpoint.receiveByte nowUs byte).2 := by
  rw [TransportEndpoint.receiveByte]
  dsimp only
  split
  · exact encoded_nil
  · apply encoded_of_none
    intro event member
    obtain ⟨response, -, rfl⟩ := mem_map.mp member
    rfl
  · exact encoded_nil

theorem encoded_receiveBytes (received : List UInt8) :
    Encoded (endpoint.receiveBytes nowUs received).2 := by
  induction received generalizing endpoint with
  | nil => exact encoded_nil
  | cons byte rest ih =>
    rw [TransportEndpoint.receiveBytes]
    exact (encoded_receiveByte endpoint nowUs byte).append (ih _)

theorem encoded_update (answers : Node.PortAnswers) :
    Encoded (endpoint.update nowUs answers).2 := by
  rw [TransportEndpoint.update]
  split
  · exact encoded_nil
  have serviced := encoded_serviceActiveTx endpoint nowUs answers
  dsimp only
  split
  · exact serviced
  have tried := serviced.append (encoded_tryStartTx (endpoint.serviceActiveTx nowUs answers).1
    nowUs answers.firstBusy answers.firstStarts)
  split
  · exact tried
  · exact (tried.append (encoded_receiveBytes _ _ _)).append (encoded_tryStartTx _ _ _ _)

theorem encoded_steps {state : TransportEndpoint capacity limits σ × List ResponseEvent}
    (start : Encoded state.2) (steps : List (TransportEndpoint.Step limits σ)) :
    Encoded (steps.foldl TransportEndpoint.step state).2 := by
  induction steps generalizing state with
  | nil => exact start
  | cons step rest ih =>
    refine ih ?_
    cases step with
    | update nowUs answers => exact start.append (encoded_update state.1 nowUs answers)
    | outside dispatcher => exact start

/-- The host reads encoded frames from a clean start. -/
theorem reads_encoded (sent : List (QueuedResponse × List UInt8))
    (encoded : ∀ one ∈ sent, Sends one) :
    Forall₂ Reads ((StreamDecoder.new.feed (sent.flatMap Prod.snd)).1.filterMap id) sent := by
  induction sent with
  | nil => exact .nil
  | cons one rest ih =>
    obtain ⟨frame, valid, same, wire⟩ := encoded one mem_cons_self
    rw [flatMap_cons, wire, StreamDecoder.feed_append, StreamDecoder.feed_wire valid,
      filterMap_append, filterMap_append, filterMap_replicate_of_none rfl]
    exact .cons ⟨frame, rfl, same⟩ (ih fun other member => encoded other (.tail _ member))

/-- Whatever the node does and receives, behind a delimiter the host reads from its transmissions
the frames of the responses, each once and in order, and nothing else. -/
theorem transmissions_read (endpoint : TransportEndpoint capacity limits σ)
    (steps : List (TransportEndpoint.Step limits σ)) (noise : List UInt8) :
    let sent := (endpoint.run steps).2.filterMap started?
    Forall₂ Reads (((StreamDecoder.new.feed (noise ++ [0])).2.feed
      (sent.flatMap Prod.snd)).1.filterMap id) sent := by
  intro sent
  have reset : (StreamDecoder.new.feed (noise ++ [0])).2 = .new := by
    rw [StreamDecoder.feed_append]
    exact (StreamDecoder.wellFormed_new.feed noise).push_zero
  rw [reset]
  exact reads_encoded sent (encoded_steps encoded_nil steps)

end SensorSystem.System.Framing
