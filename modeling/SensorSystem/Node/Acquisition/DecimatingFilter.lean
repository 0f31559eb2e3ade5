import SensorSystem.Node.Timing.DrdyTimestamps

/-! `decimating_filter.h`: a finite impulse response over the last inputs that gives one output
for two inputs. The ring keeps the inputs of the longest profile whatever the profile is. -/

namespace SensorSystem.Node.Acquisition

open Node

structure AccelSample where
  x : Int := 0
  y : Int := 0
  z : Int := 0
deriving DecidableEq

inductive DecimationFilterProfile where
  | light
  | balanced
  | aggressive

/-- The cast of a byte. A value without a name filters as `balanced`. -/
def DecimationFilterProfile.ofByte (value : UInt8) : DecimationFilterProfile :=
  if value = 0 then light else if value = 2 then aggressive else balanced

def decimationFactor : Nat := 2

def lightCoefficients : List Int :=
  [-120, 0, 530, 0, -2242, 0, 9993, 16446, 9993, 0, -2242, 0, 530, 0, -120]

def balancedCoefficients : List Int :=
  [-56, 0, 96, 0, -221, 0, 462, 0, -878, 0, 1609, 0, -3176, 0, 10342, 16412,
    10342, 0, -3176, 0, 1609, 0, -878, 0, 462, 0, -221, 0, 96, 0, -56]

def aggressiveCoefficients : List Int :=
  [0, 0, 1, 0, -6, 0, 16, 0, -32, 0, 60, 0, -102, 0, 164, 0, -254, 0, 381, 0, -561, 0, 818, 0,
    -1209, 0, 1876, 0, -3347, 0, 10387, 16384, 10387, 0, -3347, 0, 1876, 0, -1209, 0,
    818, 0, -561, 0, 381, 0, -254, 0, 164, 0, -102, 0, 60, 0, -32, 0, 16, 0, -6, 0, 1, 0, 0]

/-- `kMaxTaps`, the taps of the longest profile. -/
def maxTaps : Nat := 63

def q15Scale : Int := 32768

def DecimationFilterProfile.coefficients : DecimationFilterProfile → List Int
  | light => lightCoefficients
  | balanced => balancedCoefficients
  | aggressive => aggressiveCoefficients

structure DecimatingFilterX2 where
  ring : List (AccelSample × SampleDeviceTime) := List.replicate maxTaps ({}, {})
  writeIndex : Nat := 0
  samplesSeen : Nat := 0
  phase : Nat := 0
  profile : DecimationFilterProfile := .balanced

namespace DecimatingFilterX2

variable (filter : DecimatingFilterX2)

def reset : DecimatingFilterX2 :=
  { profile := filter.profile }

def setProfile (profile : DecimationFilterProfile) : DecimatingFilterX2 :=
  { profile }

def tapCount : Nat :=
  filter.profile.coefficients.length

/-- The inputs of the window, the oldest one first. -/
def window : List (AccelSample × SampleDeviceTime) :=
  let oldestIndex := (filter.writeIndex + maxTaps - filter.tapCount) % maxTaps
  (List.range filter.tapCount).map fun offset =>
    filter.ring.getD ((oldestIndex + offset) % maxTaps) ({}, {})

/-- The rounded quotient of the source, cut down to 32 bits. -/
def filterAxis (axis : AccelSample → Int) : Int :=
  let acc := ((filter.window.zip filter.profile.coefficients).map fun (input, coefficient) =>
    axis input.1 * coefficient).sum
  let acc := if acc ≥ 0 then acc + q15Scale / 2 else acc - q15Scale / 2
  (acc.tdiv q15Scale).bmod (2 ^ 32)

/-- The time of the input in the middle of the window. -/
def centerTime : SampleDeviceTime :=
  (filter.window.getD ((filter.tapCount - 1) / 2) ({}, {})).2

/-- Without a time for the input, the output has none either. -/
def process (input : AccelSample) (time : Option SampleDeviceTime) :
    Option (AccelSample × SampleDeviceTime) × DecimatingFilterX2 :=
  let filter := { filter with
    ring := filter.ring.set filter.writeIndex (input, time.getD {})
    writeIndex := (filter.writeIndex + 1) % maxTaps
    samplesSeen := if filter.samplesSeen < maxTaps then filter.samplesSeen + 1
      else filter.samplesSeen
    phase := (filter.phase + 1) % decimationFactor }
  if filter.phase ≠ 0 ∨ filter.samplesSeen < filter.tapCount then (none, filter)
  else
    let output : AccelSample :=
      { x := filter.filterAxis (·.x), y := filter.filterAxis (·.y), z := filter.filterAxis (·.z) }
    (some (output, if time.isSome then filter.centerTime else {}), filter)

end DecimatingFilterX2
end SensorSystem.Node.Acquisition
