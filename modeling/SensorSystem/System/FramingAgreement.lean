import SensorSystem.Host.Protocol.FramingRoundTrip
import SensorSystem.Node.Protocol.Framing

/-! The node and the host implement framing separately. Frames that hold the same values have the
same wire bytes, and both streaming decoders report the same frames and the same errors at the
same bytes of every stream. -/

namespace SensorSystem.System.Framing

open Base Host List
open Host.Framing (FrameRole FrameError)

def nodeRole : FrameRole → Node.Framing.Role
  | .request => .request
  | .response => .response

/-- The status the node reports where the host reports an error. -/
def nodeStatus : FrameError → Node.Framing.Status
  | .payloadTooLarge => .payloadTooLarge
  | .encodedFrameTooLarge => .encodedFrameTooLarge
  | .malformedCobs => .malformedCobs
  | .frameTooShort => .frameTooShort
  | .unsupportedVersion _ => .unsupportedVersion
  | .invalidRole _ => .invalidRole
  | .invalidRoute => .invalidRoute
  | .crcMismatch => .crcMismatch

/-- A frame of the host and a frame of the node hold the same values. -/
structure SameFrame (host : Framing.Frame) (node : Node.Framing.Frame) : Prop where
  role : node.role = nodeRole host.role
  destination : node.destination = host.destination
  source : node.source = host.source
  service : node.service = host.service
  message : node.message = host.message
  transactionId : node.transactionId = host.transactionId
  payloadSize : node.payloadSize = host.payload.length
  payload : node.payload.toList.take node.payloadSize = host.payload

/-- What the two decoders report for one byte. -/
def SameEvent : Option (Except FrameError Framing.Frame) →
    Node.Framing.Status × Node.Framing.Frame → Prop
  | none, (status, _) => status = .noFrame
  | some (.ok host), (status, node) => status = .ok ∧ SameFrame host node
  | some (.error error), (status, _) => status = nodeStatus error

/-- The raw bytes of a body, unless both sides call its stuffing malformed. -/
def SameRaw : Except FrameError (List UInt8) → Node.Framing.Status × List UInt8 → Prop
  | .ok raw, node => node = (.ok, raw)
  | .error error, (status, _) => error = .malformedCobs ∧ status = .malformedCobs

theorem nodeRole_toByte (role : FrameRole) : (nodeRole role).toByte = role.toByte := by
  cases role <;> rfl

theorem validRoute_nodeRole (role : FrameRole) (destination source : UInt8) :
    Node.Framing.validRoute (nodeRole role) destination source =
      Framing.validRoute role destination source := by
  cases role <;> rfl

theorem cobsEncode_eq : Node.Framing.cobsEncode = Framing.cobsEncode := rfl

theorem crc32c_eq : Node.Framing.crc32c = Framing.crc32c := rfl

theorem writeU32Le_eq (value : UInt32) : Node.Framing.writeU32Le value = u32Bytes value :=
  shiftBytes_eq_leBytes 4 value.toNat

theorem readU32Le_eq (input : List UInt8) (offset : Nat) :
    Node.Framing.readU32Le input offset = readU32 input offset := by
  have short := length_slice_le input offset 4
  rw [Node.Framing.readU32Le, orBytes_zero _ (by omega), readU32]

/-- The destuffing loops agree, or both reject the body. -/
theorem cobsDecodeLoop_agrees (input : List UInt8) (rounds readIndex : Nat) (written : List UInt8) :
    SameRaw (Framing.cobsDecodeLoop input rounds readIndex written)
      (Node.Framing.cobsDecodeLoop input rounds readIndex written) := by
  have size : Node.Framing.maxRawFrameBytes = Framing.maxRawFrameBytes := rfl
  induction rounds generalizing readIndex written with
  | zero => rfl
  | succ rounds ih =>
    rw [Framing.cobsDecodeLoop, Node.Framing.cobsDecodeLoop]
    simp only [size]
    split
    · split
      · exact ⟨rfl, rfl⟩
      split
      · exact ⟨rfl, rfl⟩
      split
      · split
        · exact ⟨rfl, rfl⟩
        · exact ih _ _
      · exact ih _ _
    · rfl

theorem take_copyPayload {bytes : List UInt8} (bounded : bytes.length ≤ 512) :
    (Node.Framing.copyPayload bytes).toList.take bytes.length = bytes := by
  have size : Node.Framing.maxPayloadBytes = 512 := rfl
  apply ext_getElem
  · rw [length_take, Vector.length_toList, size]
    omega
  · intro index _ inside
    simp [Node.Framing.copyPayload, inside]

/-- Every frame of the host has a counterpart of the node. -/
theorem exists_node (host : Framing.Frame) : ∃ node, SameFrame host node := by
  refine ⟨{ role := nodeRole host.role, destination := host.destination, source := host.source,
            service := host.service, message := host.message, transactionId := host.transactionId,
            payload := Node.Framing.copyPayload host.payload,
            payloadSize := host.payload.length }, rfl, rfl, rfl, rfl, rfl, rfl, rfl, ?_⟩
  exact take_copyPayload host.payloadBounded

variable {node : Node.Framing.Frame} {host : Framing.Frame}

/-- Every frame of the node has a counterpart of the host. -/
theorem exists_host (valid : Node.Framing.validate node = .ok) : ∃ host, SameFrame host node := by
  have bounded : node.payloadSize ≤ 512 := by
    by_contra excess
    have rejected : Node.Framing.validate node = .payloadTooLarge := if_pos (Nat.not_le.mp excess)
    rw [rejected] at valid
    exact nomatch valid
  have length : (node.payload.toList.take node.payloadSize).length = node.payloadSize := by
    rw [length_take, Vector.length_toList]
    exact Nat.min_eq_left bounded
  obtain ⟨role, same⟩ : ∃ role, node.role = nodeRole role := by
    cases node.role with
    | request => exact ⟨.request, rfl⟩
    | response => exact ⟨.response, rfl⟩
  exact ⟨⟨role, node.destination, node.source, node.service, node.message, node.transactionId,
    node.payload.toList.take node.payloadSize, by rw [length]; exact bounded⟩,
    same, rfl, rfl, rfl, rfl, rfl, length.symm, rfl⟩

variable (same : SameFrame host node)

include same

/-- Both sides accept the same frames for encoding. -/
theorem SameFrame.valid_iff : host.Valid ↔ Node.Framing.validate node = .ok := by
  have bounded : ¬ node.payloadSize > Node.Framing.maxPayloadBytes := by
    rw [same.payloadSize]
    exact Nat.not_lt.mpr host.payloadBounded
  rw [Framing.Frame.Valid, Node.Framing.validate, if_neg bounded, same.role, same.destination,
    same.source, validRoute_nodeRole]
  cases Framing.validRoute host.role host.destination host.source <;> simp

theorem SameFrame.encodeRaw_eq : Node.Framing.encodeRaw node = host.encodeRaw := by
  simp only [Node.Framing.encodeRaw, Framing.Frame.encodeRaw, same.role, same.destination,
    same.source, same.service, same.message, same.transactionId, same.payload, nodeRole_toByte,
    writeU32Le_eq, crc32c_eq]
  rw [same.payloadSize]
  rfl

/-- The node's encoder writes the host's wire bytes. -/
theorem SameFrame.encode_eq (valid : Node.Framing.validate node = .ok) {buffer : List UInt8}
    (room : Framing.maxWireFrameBytes ≤ buffer.length) :
    ∃ size written, Node.Framing.encode node (some buffer) = (.ok, size, some written) ∧
      written.take size = host.wire := by
  have large : ¬ buffer.length < Node.Framing.maxWireFrameBytes := Nat.not_lt.mpr room
  refine ⟨(host.encode buffer).1, (host.encode buffer).2, ?_, ?_⟩
  · simp only [Node.Framing.encode, valid, ne_eq, not_true, if_false, if_neg large,
      same.encodeRaw_eq, cobsEncode_eq, Framing.Frame.encode]
  · rw [(host.encode_spec room).1, host.wire_eq]

omit same

/-- Both sides list the same roles. -/
theorem fromWire_agrees (byte : UInt8) : match FrameRole.fromWire byte with
    | .ok role => (if byte = Node.Framing.Role.toByte .request then some Node.Framing.Role.request
        else if byte = Node.Framing.Role.toByte .response then some .response
        else none) = some (nodeRole role)
    | .error error => error = .invalidRole byte ∧
        (if byte = Node.Framing.Role.toByte .request then some Node.Framing.Role.request
        else if byte = Node.Framing.Role.toByte .response then some .response
        else none) = none := by
  simp only [FrameRole.fromWire, Node.Framing.Role.toByte]
  by_cases request : byte = 1
  · rw [if_pos request]
    exact if_pos request
  by_cases response : byte = 2
  · rw [if_neg request, if_pos response]
    exact (if_neg request).trans (if_pos response)
  rw [if_neg request, if_neg response]
  exact ⟨rfl, (if_neg request).trans (if_neg response)⟩

/-- The frames both sides build from checked raw bytes. -/
theorem new_agrees {role : FrameRole} {raw : List UInt8} (output : Node.Framing.Frame)
    (route : Framing.validRoute role (raw.getD 2 0) (raw.getD 3 0) = true)
    (long : ¬ raw.length < Framing.headerBytes + Framing.crcBytes) {offset : Nat}
    (crcOffset : offset = raw.length - Framing.crcBytes) : SameEvent
      (some (Framing.Frame.new role (raw.getD 2 0) (raw.getD 3 0) (raw.getD 4 0)
        (raw.getD 5 0) (readU32 raw 6)
        (slice raw Framing.headerBytes (offset - Framing.headerBytes))))
      (if offset - Framing.headerBytes > Framing.maxPayloadBytes then
          (.payloadTooLarge, output)
        else
          (.ok,
            { role := nodeRole role, destination := raw.getD 2 0, source := raw.getD 3 0,
              service := raw.getD 4 0, message := raw.getD 5 0, transactionId := readU32 raw 6,
              payload := Node.Framing.copyPayload
                (slice raw Framing.headerBytes (offset - Framing.headerBytes)),
              payloadSize := offset - Framing.headerBytes })) := by
  have length : (slice raw Framing.headerBytes (offset - Framing.headerBytes)).length =
      offset - Framing.headerBytes := length_slice (by omega)
  have accepted : Framing.validateRoute role (raw.getD 2 0) (raw.getD 3 0) = .ok () :=
    if_pos route
  rw [Framing.Frame.new, accepted, ok_bind]
  simp only [length]
  by_cases fits : offset - Framing.headerBytes ≤ Framing.maxPayloadBytes
  · rw [dif_pos fits, if_neg (Nat.not_lt.mpr fits)]
    refine ⟨rfl, rfl, rfl, rfl, rfl, rfl, rfl, length.symm, ?_⟩
    have copied := take_copyPayload (Nat.le_trans (Nat.le_of_eq length) fits)
    rwa [length] at copied
  rw [dif_neg fits, if_pos (Nat.not_le.mp fits)]
  rfl

/-- Both sides decide a collected body alike. -/
theorem decodeCandidate_agrees (decoder : Node.Framing.StreamDecoder)
    (output : Node.Framing.Frame) :
    SameEvent (some (Framing.decodeBody decoder.encoded)) (decoder.decodeCandidate output) := by
  have raws := cobsDecodeLoop_agrees decoder.encoded decoder.encoded.length 0 []
  rw [Framing.decodeBody, Node.Framing.StreamDecoder.decodeCandidate,
    Framing.cobsDecode, Node.Framing.cobsDecode]
  generalize Framing.cobsDecodeLoop decoder.encoded decoder.encoded.length 0 [] = host at raws ⊢
  generalize
    Node.Framing.cobsDecodeLoop decoder.encoded decoder.encoded.length 0 [] = node at raws ⊢
  cases host with
  | error error =>
    obtain ⟨status, rest⟩ := node
    obtain ⟨rfl, rfl⟩ := raws
    rfl
  | ok raw =>
    cases raws
    have header : Node.Framing.headerBytes = Framing.headerBytes := rfl
    have crc : Node.Framing.crcBytes = Framing.crcBytes := rfl
    have maximum : Node.Framing.maxPayloadBytes = Framing.maxPayloadBytes := rfl
    have version : Node.Framing.framingVersion = Framing.framingVersion := rfl
    have roles := fromWire_agrees (raw.getD 1 0)
    simp only [ok_bind, header, crc, maximum, version, crc32c_eq, readU32Le_eq]
    -- From here on both sides run through the same checks in the same order.
    by_cases short : raw.length < Framing.headerBytes + Framing.crcBytes
    · rw [if_pos short, if_pos short]
      rfl
    rw [if_neg short, if_neg short]
    by_cases other : raw.getD 0 0 ≠ Framing.framingVersion
    · rw [if_pos other, if_pos other]
      rfl
    rw [if_neg other, if_neg other]
    cases decoded : FrameRole.fromWire (raw.getD 1 0) with
    | error error =>
      rw [decoded] at roles
      obtain ⟨rfl, unlisted⟩ := roles
      rw [unlisted]
      rfl
    | ok role =>
      rw [decoded] at roles
      simp only [roles, ok_bind, validRoute_nodeRole]
      by_cases route : Framing.validRoute role (raw.getD 2 0) (raw.getD 3 0) = true
      · have accepted : Framing.validateRoute role (raw.getD 2 0) (raw.getD 3 0) = .ok () :=
          if_pos route
        simp only [accepted, ok_bind, route, Bool.not_true, Bool.false_eq_true, if_false]
        split
        · rfl
        · exact new_agrees output route short rfl
      have rejected : Framing.validateRoute role (raw.getD 2 0) (raw.getD 3 0) =
          .error .invalidRoute := if_neg route
      simp only [rejected, route, Bool.not_false, if_true]
      rfl

theorem push_agrees (host : Framing.StreamDecoder) (node : Node.Framing.StreamDecoder)
    (same : node.encoded = host.encoded ∧ node.discarding = host.discarding) (byte : UInt8)
    (output : Node.Framing.Frame) :
    SameEvent (host.push byte).1 ((node.push byte output).1, (node.push byte output).2.2) ∧
      (node.push byte output).2.1.encoded = (host.push byte).2.encoded ∧
      (node.push byte output).2.1.discarding = (host.push byte).2.discarding := by
  obtain ⟨encoded, discarding⟩ := node
  obtain ⟨rfl, rfl⟩ := same
  have decided := decodeCandidate_agrees ⟨host.encoded, host.discarding⟩ output
  have size : Node.Framing.maxCobsBodyBytes = Framing.maxCobsBodyBytes := rfl
  simp only [Framing.StreamDecoder.push, Node.Framing.StreamDecoder.push, size]
  split
  · split
    · exact ⟨rfl, rfl, rfl⟩
    split
    · exact ⟨rfl, rfl, rfl⟩
    · exact ⟨rfl, rfl, rfl⟩
  split
  · exact ⟨rfl, rfl, rfl⟩
  split
  · exact ⟨rfl, rfl, rfl⟩
  · exact ⟨decided, rfl, rfl⟩

/-- A whole stream, byte by byte. -/
theorem feed_agrees (bytes : List UInt8) (host : Framing.StreamDecoder)
    (node : Node.Framing.StreamDecoder)
    (same : node.encoded = host.encoded ∧ node.discarding = host.discarding)
    (output : Node.Framing.Frame) :
    Forall₂ SameEvent (host.feed bytes).1 (node.feed output bytes).1 := by
  induction bytes generalizing host node output with
  | nil => exact .nil
  | cons byte bytes ih =>
    obtain ⟨event, kept⟩ := push_agrees host node same byte output
    exact .cons event (ih _ _ kept _)

/-- The framing of the node and the framing of the host are one protocol. Each
frame one side can encode has a counterpart on the other; counterparts that are
valid have the same wire bytes in every buffer the encoders accept, and fresh
decoders report the same frames and the same errors at the same bytes of every
stream. -/
theorem framing_agrees : (∀ host : Host.Framing.Frame, host.Valid →
        ∃ node, SameFrame host node ∧ Node.Framing.validate node = .ok) ∧
      (∀ node, Node.Framing.validate node = .ok → ∃ host, SameFrame host node ∧ host.Valid) ∧
      (∀ host node, SameFrame host node → host.Valid → Node.Framing.validate node = .ok →
        ∀ hostBuffer nodeBuffer : List UInt8,
          hostBuffer.length = Host.Framing.maxWireFrameBytes →
          Node.Framing.maxWireFrameBytes ≤ nodeBuffer.length →
          ∃ size written, Node.Framing.encode node (some nodeBuffer) = (.ok, size, some written) ∧
            written.take size =
              (host.encode hostBuffer).2.take (host.encode hostBuffer).1) ∧
      (∀ (bytes : List UInt8) (output : Node.Framing.Frame),
        List.Forall₂ SameEvent (Host.Framing.StreamDecoder.new.feed bytes).1
          (({} : Node.Framing.StreamDecoder).feed output bytes).1) := by
  refine ⟨?_, ?_, ?_, ?_⟩
  · intro host valid
    obtain ⟨node, same⟩ := exists_node host
    exact ⟨node, same, same.valid_iff.mp valid⟩
  · intro node valid
    obtain ⟨host, same⟩ := exists_host valid
    exact ⟨host, same, same.valid_iff.mpr valid⟩
  · intro host node same _ valid hostBuffer nodeBuffer size room
    obtain ⟨length, written, encoded, wire⟩ := same.encode_eq valid room
    have hostWire := (host.encode_spec (Nat.le_of_eq size.symm)).1
    exact ⟨length, written, encoded, wire.trans (host.wire_eq.trans hostWire.symm)⟩
  · intro bytes output
    exact feed_agrees bytes .new {} ⟨rfl, rfl⟩ output

end SensorSystem.System.Framing
