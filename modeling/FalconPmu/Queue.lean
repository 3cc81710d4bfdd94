import FalconPmu.Fault

namespace FalconPmu

inductive Queue where
  | high
  | low
  | message
  deriving DecidableEq

namespace Queue

def all : List Queue := [high, low, message]

def number : Queue → UInt32
  | high => 0
  | low => 1
  | message => 4

def name : Queue → String
  | high => "Hpq"
  | low => "Lpq"
  | message => "Message"

def ofNumber (n : UInt32) : Except Fault Queue :=
  match all.find? (fun q => q.number == n) with
  | some q => .ok q
  | none => .error (.invalidQueueId n)

end Queue

end FalconPmu
