import FalconPmu.Proofs.Engine.Replay

namespace FalconPmu.Engine

open Hardware (Traced)

variable {H : Type} [Hardware H]

/-- The operations begun in a run, each with the engine it begins on. A reset begins a disable and, if
that succeeds, an enable. -/
inductive Begun (e₀ : Engine H) (ss : List Step) : Step → Engine H → Prop
  | given {done s rest} (h : ss = done ++ s :: rest) : Begun e₀ ss s (after done e₀)
  | first {e} : Begun e₀ ss .reset e → Begun e₀ ss .disable e
  | second {e} : Begun e₀ ss .reset e → (disable e).result = .ok () →
      Begun e₀ ss .enable (disable e).state

theorem Begun.append {e₀ e : Engine H} {ss : List Step} {s : Step} (b : Begun e₀ ss s e)
    (ts : List Step) : Begun e₀ (ss ++ ts) s e := by
  induction b with
  | @given done s rest h => exact .given (by rw [h, List.append_assoc, List.cons_append])
  | first _ ih => exact ih.first
  | second _ ok ih => exact ih.second ok

theorem run_reset_state (e : Engine H) :
    (run .reset e).state = match (disable e).result with
      | .ok () => (enable (disable e).state).state
      | .error _ => (disable e).state := by
  simp only [run, reset, Action.bind_apply, Action.note_apply]
  rcases disable e with ⟨_ | _, e', js⟩
  · rfl
  · simp only
    rcases enable e' with ⟨_ | _, e'', js'⟩ <;> rfl

theorem after_induction {P : List Step → Engine H → Prop} {e₀ : Engine H} (start : P [] e₀)
    (extend : ∀ ss s e, P ss e → P (ss ++ [s]) e)
    (up : ∀ ss e, Begun e₀ ss .enable e → P ss e → P ss (enable e).state)
    (down : ∀ ss e, Begun e₀ ss .disable e → P ss e → P ss (disable e).state)
    (ss : List Step) : P ss (after ss e₀) := by
  induction ss using List.reverseRecOn with
  | nil => exact start
  | append_singleton ss s ih =>
    have begun : Begun e₀ (ss ++ [s]) s (after ss e₀) := .given rfl
    have before := extend ss s _ ih
    rw [after_append]
    cases s with
    | enable => exact up _ _ begun before
    | disable => exact down _ _ begun before
    | reset =>
      have between := down _ _ begun.first before
      change P _ (run .reset (after ss e₀)).state
      rw [run_reset_state]
      split
      case h_1 ok => exact up _ _ (begun.second ok) between
      case h_2 => exact between

def fresh (h : H) (mask : Bool) : Engine (Traced H) := new ⟨h, []⟩ mask

theorem Begun.manageInterrupt {e₀ e : Engine H} {ss : List Step} {s : Step} (b : Begun e₀ ss s e) :
    e.manageInterrupt = e₀.manageInterrupt := by
  induction b with
  | given h => rw [after_eq]
  | first _ ih => exact ih
  | second _ _ ih =>
    rw [disable_apply]
    exact ih

section Traced

variable (e : Engine (Traced H))

theorem enable_traced :
    (enable e).state.state = (up e.hardware.hardware).1.written.getD e.state ∧
      (enable e).state.hardware.events = e.hardware.events ++
        (up e.hardware.hardware).1.events e.manageInterrupt := by
  rw [enable_apply, follow, up_traced e.manageInterrupt]
  exact ⟨rfl, rfl⟩

theorem disable_traced :
    (disable e).state.state =
        (down e.manageInterrupt e.hardware.hardware).1.written.getD e.state ∧
      (disable e).state.hardware.events = e.hardware.events ++
        (down e.manageInterrupt e.hardware.hardware).1.events e.manageInterrupt := by
  rw [disable_apply, follow, down_traced]
  exact ⟨rfl, rfl⟩

end Traced

theorem faithful_enable {h : H} {e : Engine (Traced H)} (f : e.hardware.Faithful h) :
    (enable e).state.hardware.Faithful h := by
  rw [enable_apply]
  exact up_preserves (fun c _ ht => ht.perform c) f

theorem faithful_disable {h : H} {e : Engine (Traced H)} (f : e.hardware.Faithful h) :
    (disable e).state.hardware.Faithful h := by
  rw [disable_apply]
  exact down_preserves (fun c _ ht => ht.perform c) e.manageInterrupt f

def Course.isUp : Course → Bool
  | releaseRefused _ | scrubFailed _ _ | idleFailed _ | enabled => true
  | alreadyInReset | resetRefused _ | putInReset => false

theorem isUp_up (h : H) : (up h).1.isUp = true := by
  unfold up
  split
  · rfl
  split
  · rfl
  split <;> rfl

theorem isUp_down (mask : Bool) (h : H) : (down mask h).1.isUp = false := by
  unfold down
  split
  · rfl
  split <;> rfl

def unrecorded (e : Engine (Traced H)) : Engine H := ⟨e.hardware.hardware, e.state, e.manageInterrupt⟩

theorem enable_unrecorded (e : Engine (Traced H)) :
    (enable e.unrecorded).state = (enable e).state.unrecorded := by
  rw [enable_apply, enable_apply, follow, follow, up_traced e.manageInterrupt]
  rfl

theorem disable_unrecorded (e : Engine (Traced H)) :
    (disable e.unrecorded).state = (disable e).state.unrecorded ∧
      (disable e.unrecorded).result = (disable e).result := by
  rw [disable_apply, disable_apply, follow, follow, down_traced]
  exact ⟨rfl, rfl⟩

theorem run_unrecorded (s : Step) (e : Engine (Traced H)) :
    (run s e.unrecorded).state = (run s e).state.unrecorded := by
  cases s with
  | enable => exact enable_unrecorded e
  | disable => exact (disable_unrecorded e).1
  | reset =>
    obtain ⟨hstate, hresult⟩ := disable_unrecorded e
    rw [run_reset_state, run_reset_state, hstate, hresult]
    cases (disable e).result with
    | error x => rfl
    | ok u => exact enable_unrecorded _

theorem after_unrecorded (ss : List Step) (e : Engine (Traced H)) :
    after ss e.unrecorded = (after ss e).unrecorded := by
  induction ss generalizing e with
  | nil => rfl
  | cons s ss ih =>
    change after ss (run s e.unrecorded).state = _
    rw [run_unrecorded, ih]
    rfl

end FalconPmu.Engine
