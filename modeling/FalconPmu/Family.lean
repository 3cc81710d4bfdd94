import FalconPmu.Fault

namespace FalconPmu

inductive Family where
  | gm20b
  | gp10b
  | gp10x
  | gv11b
  | gv10x
  | tu10x
  deriving DecidableEq

namespace Family

def all : List Family := [gm20b, gp10b, gp10x, gv11b, gv10x, tu10x]

def number : Family → UInt32
  | gm20b => 20490253
  | gp10b => 23782727
  | gp10x => 24076634
  | gv11b => 25005711
  | gv10x => 25633490
  | tu10x => 25622342

def name : Family → String
  | gm20b => "Gm20b"
  | gp10b => "Gp10b"
  | gp10x => "Gp10x"
  | gv11b => "Gv11b"
  | gv10x => "Gv10x"
  | tu10x => "Tu10x"

def ofNumber (n : UInt32) : Except Fault Family :=
  match all.find? (fun f => f.number == n) with
  | some f => .ok f
  | none => .error (.unsupportedVersion n)

end Family

end FalconPmu
