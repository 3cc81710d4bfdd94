import FalconPmu.Proofs.Engine.Course
import Mathlib.Data.List.Induction

namespace FalconPmu.Engine

variable {H : Type}

namespace Course

def settle (cs : List Course) (s : State) : State := cs.foldl (fun s c => c.written.getD s) s

def lastWriter (cs : List Course) : Option Course := (cs.filter fun c => c.written.isSome).getLast?

theorem settle_append (cs ds : List Course) (s : State) :
    settle (cs ++ ds) s = settle ds (settle cs s) := List.foldl_append

theorem lastWriter_concat (cs : List Course) (c : Course) :
    lastWriter (cs ++ [c]) = if c.written.isSome then some c else lastWriter cs := by
  by_cases hc : c.written.isSome <;> simp [lastWriter, List.filter_append, hc]

theorem settle_eq (cs : List Course) (s : State) :
    settle cs s = ((lastWriter cs).bind written).getD s := by
  induction cs using List.reverseRecOn with
  | nil => rfl
  | append_singleton cs c ih =>
    rw [settle_append, lastWriter_concat]
    cases hc : c.written with
    | none => simpa [settle, hc] using ih
    | some s' => simp [settle, hc]

theorem lastWriter_of_settle {cs : List Course} {s s' : State} (h : settle cs s = s') (hne : s ≠ s') :
    ∃ c, lastWriter cs = some c ∧ c.written = some s' := by
  rw [settle_eq] at h
  cases hc : lastWriter cs with
  | none => simp [hc, hne] at h
  | some c =>
    cases hw : c.written with
    | none => simp [hc, hw, hne] at h
    | some s'' => exact ⟨c, rfl, by simpa [hc, hw] using h⟩

theorem line_of_not_written {c : Course} (h : ¬ c.written.isSome) (b : Bool) : c.line b = b := by
  cases c with
  | releaseRefused e => rfl
  | resetRefused e => rfl
  | _ => exact absurd rfl h

theorem line_of_written {c : Course} (h : c.written.isSome) (b b' : Bool) : c.line b = c.line b' := by
  cases c with
  | releaseRefused e => exact absurd h Bool.false_ne_true
  | resetRefused e => exact absurd h Bool.false_ne_true
  | scrubFailed e r => cases r <;> rfl
  | _ => rfl

theorem line_of_lastWriter_concat {cs : List Course} {c d : Course} {before now : Bool}
    (hnow : now = d.line before) (ih : ∀ {c}, lastWriter cs = some c → before = c.line before)
    (hc : lastWriter (cs ++ [d]) = some c) : now = c.line now := by
  by_cases hd : d.written.isSome
  · rw [lastWriter_concat, if_pos hd] at hc
    cases hc
    exact hnow.trans (line_of_written hd _ _)
  · rw [lastWriter_concat, if_neg hd] at hc
    rw [hnow, line_of_not_written hd]
    exact ih hc

end Course

variable [Hardware H]

def after (ss : List Step) (e : Engine H) : Engine H := ss.foldl (fun e s => (run s e).state) e

def courses (mask : Bool) (h : H) : Step → List Course × H
  | .enable => ([(up h).1], (up h).2)
  | .disable => ([(down mask h).1], (down mask h).2)
  | .reset =>
    match (down mask h).1.result with
    | .error _ => ([(down mask h).1], (down mask h).2)
    | .ok () => ([(down mask h).1, (up (down mask h).2).1], (up (down mask h).2).2)

def history (mask : Bool) : List Step → H → List Course × H
  | [], h => ([], h)
  | s :: ss, h =>
    ((courses mask h s).1 ++ (history mask ss (courses mask h s).2).1,
      (history mask ss (courses mask h s).2).2)

theorem run_state (s : Step) (e : Engine H) :
    (run s e).state = { e with
      hardware := (courses e.manageInterrupt e.hardware s).2
      state := Course.settle (courses e.manageInterrupt e.hardware s).1 e.state } := by
  cases s with
  | enable => rw [run, enable_apply]; rfl
  | disable => rw [run, disable_apply]; rfl
  | reset =>
    simp only [run, reset, courses, Action.bind_apply, Action.note_apply, disable_apply]
    cases hr : (down e.manageInterrupt e.hardware).1.result with
    | error x => rfl
    | ok =>
      simp only [enable_apply, follow]
      cases (up (down e.manageInterrupt e.hardware).2).1.result with
      | error x => rfl
      | ok => rfl

theorem after_append (ss ts : List Step) (e : Engine H) :
    after (ss ++ ts) e = after ts (after ss e) := List.foldl_append

theorem after_eq (ss : List Step) (e : Engine H) :
    after ss e = { e with
      hardware := (history e.manageInterrupt ss e.hardware).2
      state := Course.settle (history e.manageInterrupt ss e.hardware).1 e.state } := by
  induction ss generalizing e with
  | nil => rfl
  | cons s ss ih =>
    change after ss (run s e).state = _
    rw [ih, run_state, history, Course.settle_append]

/-- Courses one after another, from the hardware `h` on. -/
inductive Trail (mask : Bool) (h : H) : List Course → H → Prop
  | start : Trail mask h [] h
  | up {cs h'} : Trail mask h cs h' → Trail mask h (cs ++ [(up h').1]) (up h').2
  | down {cs h'} : Trail mask h cs h' → Trail mask h (cs ++ [(down mask h').1]) (down mask h').2

theorem Trail.step {mask : Bool} {h h' : H} {cs : List Course} (t : Trail mask h cs h') (s : Step) :
    Trail mask h (cs ++ (courses mask h' s).1) (courses mask h' s).2 := by
  cases s with
  | enable => exact t.up
  | disable => exact t.down
  | reset =>
    simp only [courses]
    split
    · exact t.down
    · simpa using t.down.up

theorem Trail.run {mask : Bool} {h h' : H} {cs : List Course} (t : Trail mask h cs h')
    (ss : List Step) : Trail mask h (cs ++ (history mask ss h').1) (history mask ss h').2 := by
  induction ss generalizing cs h' with
  | nil => simpa [history] using t
  | cons s ss ih => simpa [history] using ih (t.step s)

theorem trail_history (mask : Bool) (ss : List Step) (h : H) :
    Trail mask h (history mask ss h).1 (history mask ss h).2 := by
  simpa using (Trail.start : Trail mask h [] h).run ss

theorem Trail.inReset_of_lastWriter [LawfulHardware H] {mask : Bool} {h h' : H} {cs : List Course}
    (t : Trail mask h cs h') {c : Course} (hc : Course.lastWriter cs = some c) :
    Hardware.inReset h' = c.line (Hardware.inReset h') := by
  induction t generalizing c with
  | start => cases hc
  | up _ ih => exact Course.line_of_lastWriter_concat (inReset_up _) ih hc
  | down _ ih => exact Course.line_of_lastWriter_concat (inReset_down _ _) ih hc

open Hardware (Traced)

theorem Trail.events {mask : Bool} {t t' : Traced H} {cs : List Course}
    (trail : Trail mask t cs t') : t'.events = t.events ++ cs.flatMap (Course.events mask) := by
  induction trail with
  | start => simp
  | up _ ih => rw [up_traced mask]; simp [ih]
  | down _ ih => rw [down_traced mask]; simp [ih]

end FalconPmu.Engine
