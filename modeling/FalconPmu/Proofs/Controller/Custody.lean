import FalconPmu.Proofs.Controller.Coherence
import FalconPmu.Proofs.Firmware.Ledger

namespace FalconPmu

open Firmware (Course)
open Loader (Bracketed Custody Event Nested Traced)

variable {H L B : Type}

namespace Firmware

def Course.kept : Course B → List B
  | loaded f => f.blobs.newestFirst
  | missing _ _ | malformed _ | unsupported _ _ => []

theorem Course.nested (c : Course B) {held : List B} {es : List (Event B)} (h : Nested held es) :
    Nested (c.kept ++ held) (es ++ c.events) := by
  have hacquired := h.acquired Part.fileName c.acquired
  rw [events, ← List.append_assoc]
  cases c with
  | missing acquired p =>
    have hmissing : Bracketed [Event.missing (B := B) p.fileName] := .missing .nil
    simpa [absent, returned, kept] using (hacquired.append hmissing).givenBack
  | malformed blobs => simpa [absent, returned, kept] using hacquired.givenBack
  | unsupported blobs version => simpa [absent, returned, kept] using hacquired.givenBack
  | loaded f => simpa [absent, returned, kept, Blobs.newestFirst_eq, acquired] using hacquired

theorem Course.kept_of_error {c : Course B} {e : Fault} (h : c.result = .error e) :
    c.kept = [] := by
  cases c with
  | loaded f => cases h
  | _ => rfl

end Firmware

namespace Controller

def held (c : Controller H B) : List B :=
  match c.firmware with
  | some f => f.blobs.newestFirst
  | none => []

theorem length_held {c : Controller H B} [Blob B] (h : Coherent c) :
    c.held.length =
      if c.firmware.isNone then 0 else if c.capabilities.privSecurity then 3 else 1 := by
  cases hf : c.firmware with
  | none => simp [held, hf]
  | some f =>
    rw [← (h.inForce f hf).mode]
    cases hb : f.blobs <;> simp [held, hf, hb, Blobs.newestFirst, Blobs.isSecure]

theorem held_of_vacant {c : Controller H B} (h : c.firmware = none) : c.held = [] := by
  rw [held, h]

variable [Hardware H] [Blob B] [Loader L B]

def events (x : Step) (c : Controller H B) (l : L) : List (Event B) :=
  match x with
  | .initSoftware =>
    if c.firmware.isNone && c.usable then
      (Firmware.fetch c.capabilities.privSecurity l).1.events
    else []
  | .removeSupport => c.held.map .returned
  | .earlyInit | .engine _ => []

theorem Setup.unique {c : Controller H B} {l : L} {o o' : Outcome (Controller H B × L) Unit}
    (s : Setup c l o) (s' : Setup c l o') : o = o' := by
  cases s <;> cases s' <;> grind [Course.result]

theorem Setup.traced {c : Controller H B} {t : Traced L B}
    {o : Outcome (Controller H B × L) Unit} (s : Setup c t.loader o) :
    Setup c t ⟨o.result,
      (o.state.1, ⟨o.state.2, t.events ++ events .initSoftware c t.loader⟩), o.journal⟩ := by
  cases s with
  | skipped held => simpa [events, held] using Setup.skipped (l := t) held
  | unused vacant unit => simpa [events, vacant, unit] using Setup.unused (l := t) vacant unit
  | @refused course l' e vacant unit fetched failed =>
    have recorded : Firmware.fetch c.capabilities.privSecurity t =
        (course, ⟨l', t.events ++ course.events⟩) := by
      rw [Firmware.fetch_traced, fetched]
    simpa [events, vacant, unit, fetched] using Setup.refused vacant unit recorded failed
  | @loaded f l' vacant unit fetched =>
    have recorded : Firmware.fetch c.capabilities.privSecurity t =
        (.loaded f, ⟨l', t.events ++ (Course.loaded f).events⟩) := by
      rw [Firmware.fetch_traced, fetched]
    simpa [events, vacant, unit, fetched] using Setup.loaded vacant unit recorded

theorem run_traced (x : Step) (c : Controller H B) (t : Traced L B) :
    run x (c, t) = ⟨(run x (c, t.loader)).result,
      ((run x (c, t.loader)).state.1,
        ⟨(run x (c, t.loader)).state.2, t.events ++ events x c t.loader⟩),
      (run x (c, t.loader)).journal⟩ := by
  cases x with
  | earlyInit => simp [run, alone, events]
  | engine x => simp [run, alone, events]
  | removeSupport =>
    simp only [run, removeSupport_apply, events, held]
    cases c.firmware with
    | none => simp
    | some f => simp [Firmware.release, Firmware.releaseAll_traced]
  | initSoftware =>
    change initSoftware (c, t) = _
    exact (setup_initSoftware c t).unique (setup_initSoftware c t.loader).traced

theorem Setup.nested {c : Controller H B} {l : L} {o : Outcome (Controller H B × L) Unit}
    {es : List (Event B)} (s : Setup c l o) (h : Nested c.held es) :
    Nested o.state.1.held (es ++ events .initSoftware c l) := by
  cases s with
  | skipped held => simpa [events, held] using h
  | unused vacant unit =>
    simp only [events, vacant, unit, Bool.and_false, Bool.false_eq_true, if_false,
      List.append_nil]
    exact h
  | @refused course l' e vacant unit fetched failed =>
    have hcourse := course.nested h
    rw [course.kept_of_error failed] at hcourse
    simpa [events, vacant, unit, fetched] using hcourse
  | @loaded f l' vacant unit fetched =>
    have hcourse := (Course.loaded f).nested h
    rw [held_of_vacant vacant, List.append_nil] at hcourse
    have hevents : events .initSoftware c l = (Course.loaded f).events := by
      simp [events, vacant, unit, fetched]
    rw [hevents]
    exact hcourse

theorem nested_run (x : Step) (c : Controller H B) (l : L) {es : List (Event B)}
    (h : Nested c.held es) : Nested (run x (c, l)).state.1.held (es ++ events x c l) := by
  cases x with
  | earlyInit =>
    simp only [run, alone, Action.focus_apply, earlyInit_apply, events, List.append_nil]
    exact h
  | engine x =>
    simp only [events, List.append_nil]
    exact h
  | removeSupport =>
    have hheld : Nested (c.held ++ []) es := by simpa using h
    exact hheld.givenBack
  | initSoftware => exact (setup_initSoftware c l).nested h

theorem play_of_reached (ms : List (Move H L)) (s : Controller H B × Traced L B) :
    ((reached ms s).1, (reached ms s).2.loader) = (play ms (s.1, s.2.loader)).state := by
  obtain ⟨c, t⟩ := s
  induction ms generalizing c t with
  | nil => rfl
  | cons m ms ih =>
    cases m with
    | step x =>
      simp only [reached, play, List.map_cons, transcribe, Move.recorded, Move.act, run_traced] at ih ⊢
      exact ih _ _
    | hardware f => exact ih _ _
    | loader f => exact ih _ _

theorem nested_act (m : Move H L) {s : Controller H B × Traced L B}
    (h : Nested s.1.held s.2.events) :
    Nested (m.recorded.act s).state.1.held (m.recorded.act s).state.2.events := by
  cases m with
  | step x =>
    rw [Move.recorded, Move.act, run_traced]
    exact nested_run x s.1 s.2.loader h
  | hardware f => exact h
  | loader f => exact h

theorem nested_reached (ms : List (Move H L)) {s : Controller H B × Traced L B}
    (h : Nested s.1.held s.2.events) : Nested (reached ms s).1.held (reached ms s).2.events :=
  reached_preserves (P := fun s => Nested s.1.held s.2.events) (fun m _ => nested_act m) ms h

/-- Whatever happens in a run, the loader has handed out and not got back just the blobs of the
firmware loaded, and what is recorded of it nests. The record itself has no part in the run. -/
theorem custody_after (hardware : H) (k : Capabilities) (l : L) (ms : List (Move H L)) :
    let s := reached ms (new hardware k, (⟨l, []⟩ : Traced L B))
    Custody s.1.held s.2.events ∧
      s.1.held.length = (if s.1.firmware.isNone then 0 else if k.privSecurity then 3 else 1) ∧
      (s.1, s.2.loader) = (play ms (new hardware k, l)).state := by
  intro s
  have hstart : Nested (new hardware k : Controller H B).held [] := .closed .nil
  have coherent : Coherent s.1 := Coherent.play hardware k _ _
  have mode : s.1.capabilities.privSecurity = k.privSecurity := privSecurity_play hardware k _ _
  refine ⟨(nested_reached ms hstart).custody, ?_, play_of_reached ms _⟩
  rw [length_held coherent, mode]

end Controller

end FalconPmu
