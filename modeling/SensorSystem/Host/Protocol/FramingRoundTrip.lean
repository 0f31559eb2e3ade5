import SensorSystem.Host.Protocol.Framing

/-! Encoding and decoding of one frame are inverse, an encoded frame has its only zero at its end,
and one delimiter returns the streaming decoder to its initial state whatever it was fed before. -/

namespace SensorSystem.Host.Framing

open List Base

theorem cobsEncodeStep_eq : cobsEncodeStep = Cobs.Writer.step := rfl

theorem length_foldl_step (input : List UInt8) (state : Cobs.Writer) :
    (input.foldl Cobs.Writer.step state).output.length = state.output.length := by
  induction input generalizing state with
  | nil => rfl
  | cons byte input ih =>
    rw [foldl_cons, ih, Cobs.Writer.step]
    split
    · exact length_set
    split
    · exact length_set.trans length_set
    · exact length_set

/-- The stuffing loop leaves the encoding in a large enough buffer. -/
theorem cobsEncode_spec (input output : List UInt8)
    (fits : (Cobs.encode input).length ≤ output.length) :
    (cobsEncode input output).1 = (Cobs.encode input).length ∧
      (cobsEncode input output).2.take (cobsEncode input output).1 = Cobs.encode input ∧
      (cobsEncode input output).2.length = output.length := by
  have positive := Cobs.length_encodeFrom_pos [] input
  obtain ⟨cell, tail, rfl⟩ := exists_cons_of_ne_nil
    (ne_nil_of_length_pos (Nat.lt_of_lt_of_le positive fits))
  have start : Cobs.Writer.Tracks ⟨cell :: tail, 0, 1, 1⟩ [] [] tail.length :=
    ⟨⟨cell, tail, rfl, rfl⟩, rfl, rfl, rfl⟩
  have whole := Cobs.Writer.foldl_step start (Nat.zero_le _) input (by
    change (Cobs.encode input).length ≤ 0 + 1 + tail.length
    rw [List.length_cons] at fits
    omega)
  rw [List.nil_append] at whole
  refine ⟨whole.2, whole.1, ?_⟩
  rw [cobsEncode, length_set, cobsEncodeStep_eq, length_foldl_step]

/-- The destuffing loop computes the specified decoding. -/
theorem cobsDecodeLoop_eq (input : List UInt8) (rounds readIndex : Nat) (written : List UInt8)
    (enough : input.length - readIndex ≤ rounds) : cobsDecodeLoop input rounds readIndex written =
      match Cobs.decode maxRawFrameBytes written (input.drop readIndex) with
      | some raw => .ok raw
      | none => .error .malformedCobs := by
  induction rounds generalizing readIndex written with
  | zero =>
    rw [drop_eq_nil_of_le (by omega), Cobs.decode]
    rfl
  | succ rounds ih =>
    rw [cobsDecodeLoop]
    by_cases inside : readIndex < input.length
    · have head := drop_eq_getElem_cons inside
      have code : input.getD readIndex 0 = input[readIndex] := by simp [inside]
      have rest : ∀ count, (input.drop (readIndex + 1)).drop count =
          input.drop (readIndex + 1 + count) := fun count => drop_drop
      have remaining : (input.drop (readIndex + 1)).length = input.length - (readIndex + 1) :=
        length_drop
      rw [if_pos inside, head, Cobs.decode, code]
      generalize input[readIndex] = code
      by_cases zero : code = 0
      · simp [zero]
      have bounds : (readIndex + 1 + (code.toNat - 1) > input.length ∨
          written.length + (code.toNat - 1) > maxRawFrameBytes) ↔
          (code = 0 ∨ (input.drop (readIndex + 1)).length < code.toNat - 1 ∨
            maxRawFrameBytes < written.length + (code.toNat - 1)) := by
        rw [remaining]
        simp only [zero, false_or]
        omega
      simp only [if_neg zero, bounds]
      split
      · rfl
      rename_i accepted
      simp only [zero, false_or, not_or, Nat.not_lt, remaining] at accepted
      have length : (written ++ slice input (readIndex + 1) (code.toNat - 1)).length =
          written.length + (code.toNat - 1) := by
        rw [List.length_append, length_slice (by omega)]
      have more : readIndex + 1 + (code.toNat - 1) < input.length ↔
          (input.drop (readIndex + 1)).drop (code.toNat - 1) ≠ [] := by
        rw [rest, Ne, drop_eq_nil_iff]
        omega
      simp only [more, length]
      split
      · split
        · rfl
        · rw [ih _ _ (by omega), rest, slice]
      · rw [ih _ _ (by omega), rest, slice]
    · rw [if_neg inside, drop_eq_nil_of_le (by omega), Cobs.decode]

theorem cobsDecode_encode {raw : List UInt8} (bounded : raw.length ≤ maxRawFrameBytes) :
    cobsDecode (Cobs.encode raw) = .ok raw := by
  have inverse : Cobs.decode maxRawFrameBytes [] (Cobs.encode raw) = some ([] ++ [] ++ raw) :=
    Cobs.decode_encodeFrom raw (Nat.zero_le _) (by
      rw [List.length_nil, Nat.zero_add]
      exact bounded)
  rw [cobsDecode, cobsDecodeLoop_eq _ _ _ _ (Nat.sub_le _ _), drop_zero, inverse]
  rfl

/-- The checked part of a raw frame: header and payload. -/
def Frame.content (frame : Frame) : List UInt8 :=
  [framingVersion] ++ [frame.role.toByte] ++ [frame.destination] ++ [frame.source] ++
    [frame.service] ++ [frame.message] ++ u32Bytes frame.transactionId ++ frame.payload

/-- The content followed by its checksum. -/
def Frame.rawLayout (frame : Frame) : List UInt8 :=
  frame.content ++ u32Bytes (crc32c frame.content)

variable (frame : Frame)

include frame

theorem Frame.length_content : frame.content.length = headerBytes + frame.payload.length := by
  simp [Frame.content, headerBytes]
  omega

theorem Frame.length_rawLayout :
    frame.rawLayout.length = headerBytes + frame.payload.length + crcBytes := by
  rw [Frame.rawLayout, List.length_append, frame.length_content, length_u32Bytes, crcBytes]

theorem Frame.encodeRaw_eq : frame.encodeRaw = frame.rawLayout := by
  have bounded := frame.payloadBounded
  rw [maxPayloadBytes] at bounded
  have size : maxRawFrameBytes = 526 := rfl
  have content : LaidOut maxRawFrameBytes
      (overwrite (overwrite (overwrite (overwrite (overwrite (overwrite (overwrite (overwrite
        (List.replicate maxRawFrameBytes 0) 0 [framingVersion]) 1 [frame.role.toByte])
        2 [frame.destination]) 3 [frame.source]) 4 [frame.service]) 5 [frame.message])
        6 (u32Bytes frame.transactionId)) headerBytes frame.payload) frame.content := by
    refine .overwrite (.overwrite (.overwrite (.overwrite (.overwrite (.overwrite (.overwrite
      (laidOut_first length_replicate _ ?_) rfl ?_) rfl ?_) rfl ?_) rfl ?_) rfl ?_)
        rfl ?_) rfl ?_
    all_goals
      simp only [List.length_singleton, length_u32Bytes, headerBytes, size]
      omega
  have checksum : LaidOut maxRawFrameBytes
      (overwrite _ (headerBytes + frame.payload.length) (u32Bytes (crc32c frame.content)))
      frame.rawLayout := content.overwrite frame.length_content.symm (by
        rw [length_u32Bytes, headerBytes, size]
        omega)
  have covered := content.take_eq
  rw [frame.length_content] at covered
  have length := frame.length_rawLayout
  have whole := checksum.take_eq
  rw [length] at whole
  simp only [Frame.encodeRaw, covered]
  exact whole

theorem Frame.length_encode_le : (Cobs.encode frame.rawLayout).length ≤ maxCobsBodyBytes := by
  have bound := Cobs.length_encodeFrom_le [] frame.rawLayout (Nat.zero_le _)
  have bounded := frame.payloadBounded
  rw [frame.length_rawLayout] at bound
  simp only [List.length_nil, Nat.zero_add, headerBytes, crcBytes, maxPayloadBytes] at bound bounded
  have size : maxCobsBodyBytes = 529 := rfl
  rw [Cobs.encode, size]
  omega

/-- The wire bytes of a frame, in any large enough buffer. -/
theorem Frame.encode_spec {output : List UInt8} (size : maxWireFrameBytes ≤ output.length) :
    (frame.encode output).2.take (frame.encode output).1 = Cobs.encode frame.rawLayout ++ [0] ∧
      (frame.encode output).1 = (Cobs.encode frame.rawLayout).length + 1 := by
  have bounded := frame.length_encode_le
  rw [maxWireFrameBytes] at size
  obtain ⟨length, taken, kept⟩ := cobsEncode_spec frame.rawLayout output (by omega)
  simp only [Frame.encode, frame.encodeRaw_eq]
  refine ⟨?_, by rw [length]⟩
  have room : (cobsEncode frame.rawLayout output).1 <
      (cobsEncode frame.rawLayout output).2.length := by omega
  rw [take_add_one, take_set_of_le (Nat.le_refl _), taken]
  simp [room]

theorem Frame.wire_eq : frame.wire = Cobs.encode frame.rawLayout ++ [0] :=
  (frame.encode_spec (Nat.le_of_eq length_replicate.symm)).1

omit frame

theorem FrameRole.fromWire_toByte (role : FrameRole) :
    FrameRole.fromWire role.toByte = .ok role := by
  cases role <;> rfl

/-- Decoding the body of an encoded valid frame returns the frame. -/
theorem decodeBody_encode {frame : Frame} (valid : frame.Valid) :
    decodeBody (Cobs.encode frame.rawLayout) = .ok frame := by
  have length := frame.length_rawLayout
  have bounded := frame.payloadBounded
  have route : validateRoute frame.role frame.destination frame.source = .ok () := if_pos valid
  have fits : frame.rawLayout.length ≤ maxRawFrameBytes := by
    rw [length, maxRawFrameBytes]
    omega
  have long : ¬ frame.rawLayout.length < headerBytes + crcBytes := by omega
  have offset : frame.rawLayout.length - crcBytes = frame.content.length := by
    rw [length, frame.length_content]
    omega
  have checked : frame.rawLayout.take frame.content.length = frame.content := by
    rw [Frame.rawLayout, take_left]
  have checksum : readU32 frame.rawLayout frame.content.length = crc32c frame.content := by
    apply readU32_eq
    rw [Frame.rawLayout, slice_append_of_le (Nat.le_refl _), Nat.sub_self,
      slice_zero_self (length_u32Bytes _)]
  have fields : frame.rawLayout = framingVersion :: frame.role.toByte :: frame.destination ::
      frame.source :: frame.service :: frame.message :: (u32Bytes frame.transactionId ++
        (frame.payload ++ u32Bytes (crc32c frame.content))) := by
    simp [Frame.rawLayout, Frame.content]
  have transaction : readU32 frame.rawLayout 6 = frame.transactionId := by
    rw [fields]
    simp
  have payload : slice frame.rawLayout headerBytes (frame.content.length - headerBytes) =
      frame.payload := by
    rw [frame.length_content, Nat.add_sub_cancel_left, fields, headerBytes]
    simp [slice_cons_of_pos]
  rw [decodeBody, cobsDecode_encode fits, ok_bind, if_neg long]
  simp only [offset, checked, checksum, transaction, payload]
  simp only [fields, getD_cons_zero, getD_cons_succ, FrameRole.fromWire_toByte, ok_bind,
    route, Frame.new, bounded, dif_pos, not_true, if_false, ne_eq]

end SensorSystem.Host.Framing

/-! Between delimiters the decoder only collects bytes, so a delimiter always leaves it in its
initial state, and a stream of encoded frames yields those frames. -/

namespace SensorSystem.Host.Framing

open Base List

namespace StreamDecoder

theorem feed_append (decoder : StreamDecoder) (left right : List UInt8) :
    decoder.feed (left ++ right) =
      ((decoder.feed left).1 ++ ((decoder.feed left).2.feed right).1,
        ((decoder.feed left).2.feed right).2) := by
  induction left generalizing decoder with
  | nil => rfl
  | cons byte left ih =>
    simp only [cons_append, feed, ih]

/-- What no push can break: a discarded body is not kept, and a kept body fits. -/
structure WellFormed (decoder : StreamDecoder) : Prop where
  discarded : decoder.discarding = true → decoder.encoded = []
  bounded : decoder.encoded.length ≤ maxCobsBodyBytes

theorem wellFormed_new : WellFormed new where
  discarded := nofun
  bounded := Nat.zero_le _

variable {decoder : StreamDecoder} (wellFormed : decoder.WellFormed)

include wellFormed

theorem WellFormed.push (byte : UInt8) : (decoder.push byte).2.WellFormed := by
  have bounded := wellFormed.bounded
  rw [StreamDecoder.push]
  split
  · split
    · exact wellFormed
    rename_i collecting
    split
    · exact ⟨fun _ => rfl, Nat.zero_le _⟩
    refine ⟨fun discarding => absurd discarding collecting, ?_⟩
    simp only [length_append, length_singleton]
    omega
  split
  · exact ⟨nofun, bounded⟩
  split
  · exact wellFormed
  · exact ⟨fun _ => rfl, Nat.zero_le _⟩

theorem WellFormed.feed (bytes : List UInt8) : (decoder.feed bytes).2.WellFormed := by
  induction bytes generalizing decoder with
  | nil => exact wellFormed
  | cons byte bytes ih => exact ih (wellFormed.push byte)

/-- One delimiter resets the decoder. -/
theorem WellFormed.push_zero : (decoder.push 0).2 = new := by
  obtain ⟨encoded, discarding⟩ := decoder
  rw [StreamDecoder.push, if_neg (by simp)]
  split
  · rename_i dropped
    have empty : encoded = [] := wellFormed.discarded dropped
    subst empty
    rfl
  rename_i collecting
  have kept : discarding = false := by simpa using collecting
  subst kept
  split
  · rename_i empty
    have none : encoded = [] := eq_nil_of_length_eq_zero empty
    subst none
    rfl
  · rfl

omit wellFormed

/-- Non-zero bytes that fit are collected silently. -/
theorem feed_nonzero (collected bytes : List UInt8) (nonzero : 0 ∉ bytes)
    (fits : collected.length + bytes.length ≤ maxCobsBodyBytes) : feed ⟨collected, false⟩ bytes =
      (replicate bytes.length none, ⟨collected ++ bytes, false⟩) := by
  induction bytes generalizing collected with
  | nil => simp [feed]
  | cons byte bytes ih =>
    rw [mem_cons, not_or] at nonzero
    rw [length_cons] at fits
    have room : ¬ collected.length = maxCobsBodyBytes := by omega
    have rest := ih (collected ++ [byte]) nonzero.2 (by
      rw [length_append, length_singleton]
      omega)
    have pushed : push ⟨collected, false⟩ byte = (none, ⟨collected ++ [byte], false⟩) := by
      rw [push, if_pos (Ne.symm nonzero.1), if_neg (by simp), if_neg room]
    rw [feed, pushed]
    simp only [rest, length_cons, replicate_succ, append_assoc, singleton_append]

theorem feed_wire {frame : Frame} (valid : frame.Valid) : feed new frame.wire =
      (replicate (Cobs.encode frame.rawLayout).length none ++ [some (.ok frame)], new) := by
  have nonzero : 0 ∉ Cobs.encode frame.rawLayout :=
    Cobs.zero_not_mem_encodeFrom _ (Nat.zero_le _) not_mem_nil
  have collected := feed_nonzero [] (Cobs.encode frame.rawLayout) nonzero (by
    rw [length_nil, Nat.zero_add]
    exact frame.length_encode_le)
  have delimiter : push ⟨Cobs.encode frame.rawLayout, false⟩ 0 = (some (.ok frame), new) := by
    have occupied : ¬ (Cobs.encode frame.rawLayout).length = 0 :=
      Nat.ne_of_gt (Cobs.length_encodeFrom_pos _ _)
    rw [push, if_neg (by simp), if_neg (by simp), if_neg occupied, decodeBody_encode valid]
    rfl
  rw [frame.wire_eq, feed_append, new, collected]
  simp only [nil_append, feed, delimiter, new]

/-- The events of a run of encoded frames are these frames. -/
theorem feed_wires (frames : List Frame) (valid : ∀ frame ∈ frames, frame.Valid) :
    (feed new (frames.flatMap Frame.wire)).1.filterMap id = frames.map .ok ∧
      (feed new (frames.flatMap Frame.wire)).2 = new := by
  induction frames with
  | nil => exact ⟨rfl, rfl⟩
  | cons frame frames ih =>
    obtain ⟨events, final⟩ := ih fun other member => valid other (mem_cons_of_mem _ member)
    rw [flatMap_cons, feed_append, feed_wire (valid frame mem_cons_self)]
    refine ⟨?_, final⟩
    rw [filterMap_append, filterMap_append, events]
    simp [filterMap_replicate_of_none]

end StreamDecoder

/-- The framing of the host survives arbitrary garbage. After any bytes and one
delimiter the decoder reports exactly the valid frames encoded behind it; each
encoding fits the wire bound and has its only zero at its end, whatever the
output buffer held before. -/
theorem framing_resynchronises (garbage : List UInt8) :
    (∀ frames : List Frame, (∀ frame ∈ frames, frame.Valid) →
        (((StreamDecoder.new.feed (garbage ++ [0])).2.feed
          (frames.flatMap Frame.wire)).1.filterMap id = frames.map .ok)) ∧
      (∀ (frame : Frame) (output : List UInt8), output.length = maxWireFrameBytes →
        (frame.encode output).2.take (frame.encode output).1 = frame.wire ∧
          (frame.encode output).1 ≤ maxWireFrameBytes) ∧
      (∀ frame : Frame, ∃ body, frame.wire = body ++ [0] ∧ 0 ∉ body ∧
        frame.wire.length ≤ maxWireFrameBytes) := by
  refine ⟨?_, ?_, ?_⟩
  · intro frames valid
    have reset : (StreamDecoder.new.feed (garbage ++ [0])).2 = StreamDecoder.new := by
      rw [StreamDecoder.feed_append]
      exact (StreamDecoder.wellFormed_new.feed garbage).push_zero
    rw [reset]
    exact (StreamDecoder.feed_wires frames valid).1
  · intro frame output size
    obtain ⟨taken, length⟩ := frame.encode_spec (Nat.le_of_eq size.symm)
    have bounded := frame.length_encode_le
    refine ⟨taken.trans frame.wire_eq.symm, ?_⟩
    rw [length, maxWireFrameBytes]
    omega
  · intro frame
    have bounded := frame.length_encode_le
    refine ⟨Cobs.encode frame.rawLayout, frame.wire_eq, ?_, ?_⟩
    · exact Cobs.zero_not_mem_encodeFrom _ (Nat.zero_le _) List.not_mem_nil
    · rw [frame.wire_eq, List.length_append, List.length_singleton, maxWireFrameBytes]
      omega

end SensorSystem.Host.Framing
