import FalconPmu.Bundle

namespace FalconPmu

inductive Level where
  | debug
  | error
  deriving DecidableEq

def Level.name : Level → String
  | debug => "DEBUG"
  | error => "ERROR"

inductive Notice where
  | blobRequested (name : String)
  | blobMissing (name : String)
  | descriptorMalformed
  | versionUnsupported (version : UInt32)
  | versionSelected (version : UInt32) (family : Family)
  | published (family : Family) (versions : Versions)
  | engineEnabling
  | resetReleaseFailed (e : Fault)
  | scrubTimedOut
  | resetRecoveryFailed (e : Fault)
  | idleTimedOut
  | engineEnabled
  | engineDisabling
  | alreadyInReset
  | resetFailed (e : Fault)
  | engineResetting
  | engineReset
  | unitUnsupported
  | setupSkipped

namespace Notice

def level : Notice → Level
  | blobMissing _ | descriptorMalformed | versionUnsupported _ | resetReleaseFailed _
  | scrubTimedOut | resetRecoveryFailed _ | idleTimedOut | resetFailed _ => .error
  | blobRequested _ | versionSelected _ _ | published _ _ | engineEnabling | engineEnabled
  | engineDisabling | alreadyInReset | engineResetting | engineReset | unitUnsupported
  | setupSkipped => .debug

def text : Notice → String
  | blobRequested name => "requesting PMU ucode blob " ++ name
  | blobMissing name => "failed to load PMU ucode blob " ++ name
  | descriptorMalformed => "Malformed PMU ucode descriptor"
  | versionUnsupported version => "PMU ucode app_version " ++ toString version ++ " not supported"
  | versionSelected version family =>
    "PMU ucode app_version " ++ toString version ++ " selects " ++ family.name
  | published family versions =>
    "PMU firmware ABI for " ++ family.name ++ ": " ++ versions.outline.line
  | engineEnabling => "PMU engine enable"
  | resetReleaseFailed e => "PMU engine reset release failed: " ++ e.message
  | scrubTimedOut => "Falcon mem scrubbing timeout"
  | resetRecoveryFailed e => "Failed to put PMU engine back in reset: " ++ e.message
  | idleTimedOut => "Falcon idle timeout"
  | engineEnabled => "PMU engine enabled"
  | engineDisabling => "PMU engine disable"
  | alreadyInReset => "PMU engine already in reset"
  | resetFailed e => "PMU engine reset failed: " ++ e.message
  | engineResetting => "PMU engine reset"
  | engineReset => "PMU engine reset done"
  | unitUnsupported => "PMU not supported, disabling LS PMU features"
  | setupSkipped => "skip pmu init for unrailgate sequence"

def line (n : Notice) : String := n.level.name ++ " " ++ n.text

end Notice

end FalconPmu
