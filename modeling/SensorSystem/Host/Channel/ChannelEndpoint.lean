import SensorSystem.Host.Channel.ChannelAgent

/-! `channel_endpoint.rs`: one step owns the byte port and the agent, and does at most one thing
that can be seen outside. What the port and the clock answer is given with the step. -/

namespace SensorSystem.Host

open Framing (Frame FrameError)

/-- What `poll_receive` returns, with the frame that is taken behind it. -/
inductive PortReceive where
  | noData
  | frame (frame : Frame)
  | decodeError (error : FrameError)
  | disconnected
  | failed

structure EndpointInputs where
  /-- The clock at the poll. -/
  polled : MonotonicMicros
  /-- The clock behind a transmission or a received frame. -/
  settled : MonotonicMicros
  transmits : Bool
  receives : PortReceive

inductive ChannelEndpointEvent where
  | idle
  | transmissionComplete (nodeAddress : UInt8)
  | agent (event : ChannelEvent)
  | decodeError (error : FrameError)
  | disconnected

inductive ChannelEndpointError where
  | invariantViolation
  | agent (error : ChannelAgentError)
  | port

namespace ChannelAgent

variable (agent : ChannelAgent) (inputs : EndpointInputs)

/-- The request that is ready leaves through the port. -/
def sendOutbound : Except ChannelEndpointError ChannelEndpointEvent × ChannelAgent :=
  match agent.takeOutbound with
  | (none, agent) => (.error .invariantViolation, agent)
  | (some frame, agent) =>
    if inputs.transmits then
      match agent.transmitCompleted inputs.settled with
      | (.error error, agent) => (.error (.agent error), agent)
      | (.ok (), agent) => (.ok (.transmissionComplete frame.destination), agent)
    else match agent.transmitFailed inputs.settled with
      | (.error error, agent) => (.error (.agent error), agent)
      | (.ok _, agent) => (.error .port, agent)

def pollPort : Except ChannelEndpointError ChannelEndpointEvent × ChannelAgent :=
  match inputs.receives with
  | .noData => (.ok .idle, agent)
  | .frame frame =>
    match agent.receive inputs.settled frame with
    | (.error error, agent) => (.error (.agent error), agent)
    | (.ok event, agent) => (.ok (.agent event), agent)
  | .decodeError error => (.ok (.decodeError error), agent)
  | .disconnected => (.ok .disconnected, agent)
  | .failed => (.error .port, agent)

/-- `ChannelEndpoint::step`. -/
def endpointStep : Except ChannelEndpointError ChannelEndpointEvent × ChannelAgent :=
  match agent.poll inputs.polled with
  | (.error error, agent) => (.error (.agent error), agent)
  | (.ok .transmitReady, agent) => agent.sendOutbound inputs
  | (.ok .idle, agent) => agent.pollPort inputs
  | (.ok event, agent) => (.ok (.agent event), agent)

end ChannelAgent
end SensorSystem.Host
