import FalconPmu.Text.Outline
import FalconPmu.Text.Quoted

namespace FalconPmu

inductive Fault where
  | unsupportedVersion (version : UInt32)
  | firmwareLoad (blob : String)
  | scrubTimeout
  | enableTimeout
  | notInitialized
  | invalidBufferSize
  | malformedDescriptor
  | invalidQueueId (number : UInt32)
  | noFrameBuffer
  | hardware (code : Int32)
  deriving DecidableEq

namespace Fault

def message : Fault → String
  | unsupportedVersion version => "Unsupported PMU firmware version " ++ toString version
  | firmwareLoad blob => "Failed to load firmware blob " ++ blob
  | scrubTimeout => "Timed out waiting for the falcon memory scrub"
  | enableTimeout => "Timed out waiting for the falcon to become idle"
  | notInitialized => "PMU firmware ABI not initialized"
  | invalidBufferSize => "Invalid buffer size"
  | malformedDescriptor => "Malformed descriptor"
  | invalidQueueId number => "Invalid queue ID " ++ toString number
  | noFrameBuffer => "Allocation has no frame buffer part"
  | hardware code => "Hardware error " ++ toString code

def name : Fault → String
  | unsupportedVersion _ => "UnsupportedVersion"
  | firmwareLoad _ => "FirmwareLoad"
  | scrubTimeout => "ScrubTimeout"
  | enableTimeout => "EnableTimeout"
  | notInitialized => "NotInitialized"
  | invalidBufferSize => "InvalidBufferSize"
  | malformedDescriptor => "MalformedDescriptor"
  | invalidQueueId _ => "InvalidQueueId"
  | noFrameBuffer => "NoFbAllocation"
  | hardware _ => "Hardware"

def outline (e : Fault) : Outline :=
  match e with
  | unsupportedVersion n | invalidQueueId n => .wrapped e.name (.atom (toString n))
  | hardware code => .wrapped e.name (.atom (toString code))
  | firmwareLoad blob => .fields e.name [("name", .atom (Quoted.encode blob))]
  | _ => .atom e.name

end Fault

end FalconPmu
