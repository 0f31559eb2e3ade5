import SensorSystem.Base.Cobs
import SensorSystem.Base.Shifts

/-! `protocol_v3/framing.cpp`: the node's own encoder and streaming decoder, with fixed arrays,
status codes and an output frame that only a success writes. -/

namespace SensorSystem.Node.Framing

open Base

def framingVersion : UInt8 := 3
def hostAddress : UInt8 := 0
def broadcastAddress : UInt8 := 255
def headerBytes : Nat := 10
def crcBytes : Nat := 4
def maxPayloadBytes : Nat := 512
def maxRawFrameBytes : Nat := headerBytes + maxPayloadBytes + crcBytes
def maxCobsBodyBytes : Nat := maxRawFrameBytes + (maxRawFrameBytes + 253) / 254
def maxWireFrameBytes : Nat := maxCobsBodyBytes + 1

inductive Role where
  | request
  | response
deriving DecidableEq

def Role.toByte : Role → UInt8
  | request => 1
  | response => 2

inductive Status where
  | ok
  | noFrame
  | payloadTooLarge
  | outputTooSmall
  | encodedFrameTooLarge
  | malformedCobs
  | frameTooShort
  | unsupportedVersion
  | invalidRole
  | invalidRoute
  | crcMismatch
deriving DecidableEq

/-- The payload array has its full size; nothing keeps `payloadSize` within it. -/
structure Frame where
  role : Role := .request
  destination : UInt8 := 0
  source : UInt8 := 0
  service : UInt8 := 0
  message : UInt8 := 0
  transactionId : UInt32 := 0
  payload : Vector UInt8 maxPayloadBytes := Vector.replicate _ 0
  payloadSize : Nat := 0

def validRoute (role : Role) (destination source : UInt8) : Bool :=
  if role = .request then source == hostAddress && destination != hostAddress
  else
    role == .response && destination == hostAddress && source != hostAddress &&
      source != broadcastAddress

def writeU32Le (value : UInt32) : List UInt8 := shiftBytes 4 value.toNat

def readU32Le (input : List UInt8) (offset : Nat) : UInt32 :=
  UInt32.ofNat (orBytes 32 0 (slice input offset 4) 0)

def cobsEncodeStep (state : Cobs.Writer) (byte : UInt8) : Cobs.Writer :=
  if byte = 0 then
    { output := state.output.set state.codeIndex state.code
      codeIndex := state.writeIndex
      writeIndex := state.writeIndex + 1
      code := 1 }
  else
    let state : Cobs.Writer := { state with
      output := state.output.set state.writeIndex byte
      writeIndex := state.writeIndex + 1
      code := state.code + 1 }
    if state.code = 0xff then
      { output := state.output.set state.codeIndex state.code
        codeIndex := state.writeIndex
        writeIndex := state.writeIndex + 1
        code := 1 }
    else state

def cobsEncode (input output : List UInt8) : Nat × List UInt8 :=
  let state := input.foldl cobsEncodeStep ⟨output, 0, 1, 1⟩
  (state.writeIndex, state.output.set state.codeIndex state.code)

/-- The loop of `cobs_decode`. Every round consumes its code byte. -/
def cobsDecodeLoop (input : List UInt8) : Nat → Nat → List UInt8 → Status × List UInt8
  | 0, _, written => (.ok, written)
  | rounds + 1, readIndex, written =>
    if readIndex < input.length then
      let code := input.getD readIndex 0
      let readIndex := readIndex + 1
      if code = 0 then (.malformedCobs, written)
      else
        let count := code.toNat - 1
        if readIndex + count > input.length ∨ written.length + count > maxRawFrameBytes then
          (.malformedCobs, written)
        else
          let written := written ++ slice input readIndex count
          let readIndex := readIndex + count
          if code ≠ 0xff ∧ readIndex < input.length then
            if written.length = maxRawFrameBytes then (.malformedCobs, written)
            else cobsDecodeLoop input rounds readIndex (written ++ [0])
          else cobsDecodeLoop input rounds readIndex written
    else (.ok, written)

def cobsDecode (input : List UInt8) : Status × List UInt8 :=
  cobsDecodeLoop input input.length 0 []

def crc32cBit (crc : UInt32) : UInt32 :=
  let mask := 0 - (crc &&& 1)
  (crc >>> 1) ^^^ (0x82f63b78 &&& mask)

def crc32c (data : List UInt8) : UInt32 :=
  ~~~ data.foldl (fun crc byte => Nat.repeat crc32cBit 8 (crc ^^^ byte.toUInt32)) 0xffffffff

variable (frame : Frame)

def validate : Status :=
  if frame.payloadSize > maxPayloadBytes then .payloadTooLarge
  else if validRoute frame.role frame.destination frame.source then .ok
  else .invalidRoute

/-- The raw bytes `encode` stuffs, in its zeroed array. -/
def encodeRaw : List UInt8 :=
  let raw := List.replicate maxRawFrameBytes 0
  let raw := overwrite raw 0 [framingVersion]
  let raw := overwrite raw 1 [frame.role.toByte]
  let raw := overwrite raw 2 [frame.destination]
  let raw := overwrite raw 3 [frame.source]
  let raw := overwrite raw 4 [frame.service]
  let raw := overwrite raw 5 [frame.message]
  let raw := overwrite raw 6 (writeU32Le frame.transactionId)
  let raw := overwrite raw headerBytes (frame.payload.toList.take frame.payloadSize)
  let crcOffset := headerBytes + frame.payloadSize
  let raw := overwrite raw crcOffset (writeU32Le (crc32c (raw.take crcOffset)))
  raw.take (crcOffset + crcBytes)

/-- The status, `output_size` and the output array, absent for a null pointer. -/
def encode (output : Option (List UInt8)) : Status × Nat × Option (List UInt8) :=
  let status := validate frame
  if status ≠ .ok then (status, 0, output)
  else match output with
    | none => (.outputTooSmall, 0, none)
    | some buffer =>
      if buffer.length < maxWireFrameBytes then (.outputTooSmall, 0, some buffer)
      else
        let (outputSize, buffer) := cobsEncode (encodeRaw frame) buffer
        (.ok, outputSize + 1, some (buffer.set outputSize 0))

/-- The payload array after a copy of some bytes into a cleared frame. -/
def copyPayload (bytes : List UInt8) : Vector UInt8 maxPayloadBytes :=
  Vector.ofFn fun index => bytes.getD index 0

/-- The streaming decoder; `encoded` is the array up to `encoded_size_`. -/
structure StreamDecoder where
  encoded : List UInt8 := []
  discarding : Bool := false

namespace StreamDecoder

variable (decoder : StreamDecoder)

def decodeCandidate (output : Frame) : Status × Frame :=
  match cobsDecode decoder.encoded with
  | (.ok, raw) =>
    if raw.length < headerBytes + crcBytes then (.frameTooShort, output)
    else if raw.getD 0 0 ≠ framingVersion then (.unsupportedVersion, output)
    else
      let role? :=
        if raw.getD 1 0 = Role.toByte .request then some Role.request
        else if raw.getD 1 0 = Role.toByte .response then some .response
        else none
      match role? with
      | none => (.invalidRole, output)
      | some role =>
        if !validRoute role (raw.getD 2 0) (raw.getD 3 0) then (.invalidRoute, output)
        else
          let crcOffset := raw.length - crcBytes
          if crc32c (raw.take crcOffset) ≠ readU32Le raw crcOffset then (.crcMismatch, output)
          else
            let payloadSize := crcOffset - headerBytes
            if payloadSize > maxPayloadBytes then (.payloadTooLarge, output)
            else
              (.ok,
                { role
                  destination := raw.getD 2 0
                  source := raw.getD 3 0
                  service := raw.getD 4 0
                  message := raw.getD 5 0
                  transactionId := readU32Le raw 6
                  payload := copyPayload (slice raw headerBytes payloadSize)
                  payloadSize })
  | (status, _) => (status, output)

def push (byte : UInt8) (output : Frame) : Status × StreamDecoder × Frame :=
  if byte ≠ 0 then
    if decoder.discarding then (.noFrame, decoder, output)
    else if decoder.encoded.length = maxCobsBodyBytes then
      (.noFrame, { encoded := [], discarding := true }, output)
    else (.noFrame, { decoder with encoded := decoder.encoded ++ [byte] }, output)
  else if decoder.discarding then
    (.encodedFrameTooLarge, { decoder with discarding := false }, output)
  else if decoder.encoded.length = 0 then (.noFrame, decoder, output)
  else
    let (status, output) := decoder.decodeCandidate output
    (status, { decoder with encoded := [] }, output)

/-- The status of each byte of a stream with its frame. The caller passes the same frame to every
push. -/
def feed (decoder : StreamDecoder) (output : Frame) :
    List UInt8 → List (Status × Frame) × StreamDecoder
  | [] => ([], decoder)
  | byte :: bytes =>
    let (status, decoder, output) := decoder.push byte output
    let (events, decoder) := feed decoder output bytes
    ((status, output) :: events, decoder)

end StreamDecoder
end SensorSystem.Node.Framing
