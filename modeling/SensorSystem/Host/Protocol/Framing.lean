import SensorSystem.Base.Bytes
import SensorSystem.Base.Cobs
import SensorSystem.Base.Results

/-! `framing.rs`: a raw frame is a ten-byte header, a payload and a CRC-32C; on the wire it is
COBS encoded and ends with a zero byte. The streaming decoder collects a bounded body up to each
zero and discards a body that does not fit. -/

namespace SensorSystem.Host

open Base

namespace Framing

def framingVersion : UInt8 := 3
def hostAddress : UInt8 := 0
def broadcastAddress : UInt8 := 255
def headerBytes : Nat := 10
def crcBytes : Nat := 4
def maxPayloadBytes : Nat := 512
def maxRawFrameBytes : Nat := headerBytes + maxPayloadBytes + crcBytes
/-- The source rounds `maxRawFrameBytes / 254` up. -/
def maxCobsBodyBytes : Nat := maxRawFrameBytes + (maxRawFrameBytes + 253) / 254
def maxWireFrameBytes : Nat := maxCobsBodyBytes + 1

inductive FrameRole where
  | request
  | response
deriving DecidableEq

def FrameRole.toByte : FrameRole → UInt8
  | request => 1
  | response => 2

inductive FrameError where
  | payloadTooLarge
  | encodedFrameTooLarge
  | malformedCobs
  | frameTooShort
  | unsupportedVersion (version : UInt8)
  | invalidRole (role : UInt8)
  | invalidRoute
  | crcMismatch
deriving DecidableEq

def FrameRole.fromWire (value : UInt8) : Except FrameError FrameRole :=
  if value = 1 then .ok .request
  else if value = 2 then .ok .response
  else .error (.invalidRole value)

/-- A frame. The private payload array is its used part; the rest stays zero. -/
structure Frame where
  role : FrameRole
  destination : UInt8
  source : UInt8
  service : UInt8
  message : UInt8
  transactionId : UInt32
  payload : List UInt8
  payloadBounded : payload.length ≤ maxPayloadBytes

variable (role : FrameRole)

def validRoute (destination source : UInt8) : Bool :=
  match role with
  | .request => source == hostAddress && destination != hostAddress
  | .response =>
    destination == hostAddress && source != hostAddress && source != broadcastAddress

def validateRoute (destination source : UInt8) : Except FrameError Unit :=
  if validRoute role destination source then .ok () else .error .invalidRoute

def Frame.new (destination source service message : UInt8) (transactionId : UInt32)
    (payload : List UInt8) : Except FrameError Frame := do
  validateRoute role destination source
  if bounded : payload.length ≤ maxPayloadBytes then
    .ok ⟨role, destination, source, service, message, transactionId, payload, bounded⟩
  else .error .payloadTooLarge

variable (frame : Frame)

/-- The frames whose public fields form a route that `Frame::new` accepts. -/
def Frame.Valid : Prop :=
  validRoute frame.role frame.destination frame.source = true

/-- One of the eight rounds per byte. -/
def crc32cRound (crc : UInt32) : UInt32 :=
  let mask := 0 - (crc &&& 1)
  (crc >>> 1) ^^^ (0x82f63b78 &&& mask)

def crc32cByte (crc : UInt32) (byte : UInt8) : UInt32 :=
  Nat.repeat crc32cRound 8 (crc ^^^ byte.toUInt32)

def crc32c (bytes : List UInt8) : UInt32 :=
  ~~~ bytes.foldl crc32cByte 0xffffffff

def cobsEncodeStep (state : Cobs.Writer) (byte : UInt8) : Cobs.Writer :=
  if byte = 0 then
    { output := state.output.set state.codeIndex state.code
      codeIndex := state.writeIndex
      writeIndex := state.writeIndex + 1
      code := 1 }
  else
    let state : Cobs.Writer := { state with
      output := state.output.set state.writeIndex byte
      writeIndex := state.writeIndex + 1
      code := state.code + 1 }
    if state.code = 0xff then
      { output := state.output.set state.codeIndex state.code
        codeIndex := state.writeIndex
        writeIndex := state.writeIndex + 1
        code := 1 }
    else state

/-- The encoded length and the output buffer that starts with the encoding. -/
def cobsEncode (input output : List UInt8) : Nat × List UInt8 :=
  let state := input.foldl cobsEncodeStep ⟨output, 0, 1, 1⟩
  (state.writeIndex, state.output.set state.codeIndex state.code)

/-- The loop of `cobs_decode`. Every round reads a byte, so the input length bounds the rounds. -/
def cobsDecodeLoop (input : List UInt8) : Nat → Nat → List UInt8 → Except FrameError (List UInt8)
  | 0, _, written => .ok written
  | rounds + 1, readIndex, written =>
    if readIndex < input.length then
      let code := input.getD readIndex 0
      if code = 0 then .error .malformedCobs
      else
        let readIndex := readIndex + 1
        let count := code.toNat - 1
        if readIndex + count > input.length ∨ written.length + count > maxRawFrameBytes then
          .error .malformedCobs
        else
          let written := written ++ slice input readIndex count
          let readIndex := readIndex + count
          if code ≠ 0xff ∧ readIndex < input.length then
            if written.length = maxRawFrameBytes then .error .malformedCobs
            else cobsDecodeLoop input rounds readIndex (written ++ [0])
          else cobsDecodeLoop input rounds readIndex written
    else .ok written

def cobsDecode (input : List UInt8) : Except FrameError (List UInt8) :=
  cobsDecodeLoop input input.length 0 []

/-- The raw frame `encode` builds before stuffing it. -/
def Frame.encodeRaw : List UInt8 :=
  let raw := List.replicate maxRawFrameBytes 0
  let raw := overwrite raw 0 [framingVersion]
  let raw := overwrite raw 1 [frame.role.toByte]
  let raw := overwrite raw 2 [frame.destination]
  let raw := overwrite raw 3 [frame.source]
  let raw := overwrite raw 4 [frame.service]
  let raw := overwrite raw 5 [frame.message]
  let raw := overwrite raw 6 (u32Bytes frame.transactionId)
  let raw := overwrite raw headerBytes frame.payload
  let crcOffset := headerBytes + frame.payload.length
  let crc := crc32c (raw.take crcOffset)
  let raw := overwrite raw crcOffset (u32Bytes crc)
  raw.take (crcOffset + crcBytes)

/-- The wire length and the output buffer that starts with the wire bytes. -/
def Frame.encode (output : List UInt8) : Nat × List UInt8 :=
  let (encodedLength, output) := cobsEncode frame.encodeRaw output
  (encodedLength + 1, output.set encodedLength 0)

/-- The wire bytes of a frame, encoded into a zeroed buffer. -/
def Frame.wire : List UInt8 :=
  let (length, output) := frame.encode (List.replicate maxWireFrameBytes 0)
  output.take length

def decodeBody (encoded : List UInt8) : Except FrameError Frame := do
  let raw ← cobsDecode encoded
  if raw.length < headerBytes + crcBytes then .error .frameTooShort
  else if raw.getD 0 0 ≠ framingVersion then .error (.unsupportedVersion (raw.getD 0 0))
  else do
    let role ← FrameRole.fromWire (raw.getD 1 0)
    validateRoute role (raw.getD 2 0) (raw.getD 3 0)
    let crcOffset := raw.length - crcBytes
    if crc32c (raw.take crcOffset) ≠ readU32 raw crcOffset then .error .crcMismatch
    else
      Frame.new role (raw.getD 2 0) (raw.getD 3 0) (raw.getD 4 0) (raw.getD 5 0) (readU32 raw 6)
        (slice raw headerBytes (crcOffset - headerBytes))

/-- The streaming decoder; `encoded` is the array up to `encoded_len`. -/
structure StreamDecoder where
  encoded : List UInt8 := []
  discarding : Bool := false

namespace StreamDecoder

def new : StreamDecoder := {}

def push (decoder : StreamDecoder) (byte : UInt8) :
    Option (Except FrameError Frame) × StreamDecoder :=
  if byte ≠ 0 then
    if decoder.discarding then (none, decoder)
    else if decoder.encoded.length = maxCobsBodyBytes then
      (none, { encoded := [], discarding := true })
    else (none, { decoder with encoded := decoder.encoded ++ [byte] })
  else if decoder.discarding then
    (some (.error .encodedFrameTooLarge), { decoder with discarding := false })
  else if decoder.encoded.length = 0 then (none, decoder)
  else (some (decodeBody decoder.encoded), { decoder with encoded := [] })

/-- What each byte of a stream makes the decoder report, and its final state. -/
def feed (decoder : StreamDecoder) :
    List UInt8 → List (Option (Except FrameError Frame)) × StreamDecoder
  | [] => ([], decoder)
  | byte :: bytes =>
    let (event, decoder) := decoder.push byte
    let (events, decoder) := feed decoder bytes
    (event :: events, decoder)

end StreamDecoder
end Framing
end SensorSystem.Host
