import FalconPmu.Proofs.Controller.Run
import FalconPmu.Proofs.Transcript

/-!
Runs told move by move. A move is a step, or a change that the outside world makes to the hardware or to
the loader.
-/

namespace FalconPmu

/-- The least that passes for open firmware: a descriptor with nothing in it but the version. -/
def Firmware.bare (version : UInt32) : Bytes :=
  List.replicate 12 0 ++ Wire.encode version ++ List.replicate 380 0

namespace Engine

variable {H : Type}

inductive Move (H : Type) where
  | step (x : Step)
  | hardware (f : H → H)

variable [Hardware H]

def Move.act : Move H → Engine H → Transcript Step (Engine H)
  | step x, e => (run x e).transcript x
  | hardware f, e => ⟨[], { e with hardware := f e.hardware }⟩

def play (ms : List (Move H)) (e : Engine H) : Transcript Step (Engine H) := transcribe Move.act ms e

end Engine

namespace Controller

variable {H L B : Type}

inductive Move (H L : Type) where
  | step (x : Step)
  | hardware (f : H → H)
  | loader (f : L → L)

def Step.engine? : Step → Option Engine.Step
  | engine x => some x
  | earlyInit | initSoftware | removeSupport => none

def Move.engine? : Move H L → Option (Engine.Move H)
  | step x => x.engine?.map .step
  | hardware f => some (.hardware f)
  | loader _ => none

/-- The move on a recording loader. What the outside world does to the loader is not recorded. -/
def Move.recorded : Move H L → Move H (Loader.Traced L B)
  | step x => .step x
  | hardware f => .hardware f
  | loader f => .loader fun t => { t with loader := f t.loader }

theorem Move.eq_step_of_recorded {m : Move H L} {x : Step}
    (h : (m.recorded : Move H (Loader.Traced L B)) = .step x) : m = .step x := by
  cases m with
  | step y =>
    cases h
    rfl
  | hardware f => cases h
  | loader f => cases h

variable [Hardware H] [Blob B] [Loader L B]

def Move.act : Move H L → Controller H B × L → Transcript Step (Controller H B × L)
  | step x, s => (run x s).transcript x
  | hardware f, s => ⟨[], ({ s.1 with engine.hardware := f s.1.engine.hardware }, s.2)⟩
  | loader f, s => ⟨[], (s.1, f s.2)⟩

def play (ms : List (Move H L)) (s : Controller H B × L) : Transcript Step (Controller H B × L) :=
  transcribe Move.act ms s

theorem play_append (ms ns : List (Move H L)) (s : Controller H B × L) :
    (play (ms ++ ns) s).state = (play ns (play ms s).state).state := by
  rw [play, transcribe_append]
  rfl

theorem play_preserves {P : Controller H B × L → Prop} {ms : List (Move H L)}
    (move : ∀ m ∈ ms, ∀ s, P s → P (m.act s).state) {s : Controller H B × L} (hs : P s) :
    P (play ms s).state :=
  transcribe_preserves move hs

def reached (ms : List (Move H L)) (s : Controller H B × Loader.Traced L B) :
    Controller H B × Loader.Traced L B :=
  (play (ms.map Move.recorded) s).state

theorem reached_append (ms ns : List (Move H L)) (s : Controller H B × Loader.Traced L B) :
    reached (ms ++ ns) s = reached ns (reached ms s) := by
  rw [reached, List.map_append, play_append]
  rfl

theorem reached_preserves {P : Controller H B × Loader.Traced L B → Prop}
    (move : ∀ (m : Move H L) s, P s → P (m.recorded.act s).state) (ms : List (Move H L))
    {s : Controller H B × Loader.Traced L B} (hs : P s) : P (reached ms s) := by
  apply play_preserves _ hs
  intro m' hm' s h
  obtain ⟨m, -, rfl⟩ := List.mem_map.1 hm'
  exact move m s h

end Controller

end FalconPmu
