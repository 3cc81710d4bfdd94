import FalconPmu.Proofs.Engine.Rise

namespace FalconPmu.Engine

open Hardware (Event Traced Throughout Genuine genuine_append replay replay_append)

variable {H : Type} [Hardware H]

/-- What has come before a call, and comes after it, in a run from the hardware `h` on. -/
def Orderly (h : H) (mask : Bool) (ss : List Step) (before : List Event) (ev : Event)
    (later : List Event) : Prop :=
  match ev.call with
  | .release true | .loadSecondLevelGating | .loadBlockLevelGating => True
  | .awaitScrub => Course.opening <:+ before
  | .awaitIdle => before.getLast? = some ⟨.awaitScrub, .ok ()⟩
  | .release false => Hardware.inReset (replay before h) = false
  | .setInterrupt on => on = false ∧ mask = true ∧
    ∃ e r rest, Begun (fresh h mask) ss .disable e ∧ e.hardware.events = before ∧
      (disable e).state.hardware.events = before ++ [ev, ⟨.release false, r⟩] ∧
      later = ⟨.release false, r⟩ :: rest

theorem inReset_of_down_ne {mask : Bool} {h : H} (hd : (down mask h).1 ≠ .alreadyInReset) :
    Hardware.inReset h = false := by
  by_contra hin
  rw [down, if_pos (by simpa using hin)] at hd
  exact hd rfl

section Orderly

variable {h : H} {mask : Bool} {ss : List Step} {before later : List Event} {ev : Event}

theorem Orderly.append (o : Orderly h mask ss before ev later) (ts : List Step)
    (more : List Event) : Orderly h mask (ss ++ ts) before ev (later ++ more) := by
  obtain ⟨call, result⟩ := ev
  cases call with
  | setInterrupt on =>
    obtain ⟨hon, hmask, e, r, rest, begun, hbefore, hevents, rfl⟩ := o
    exact ⟨hon, hmask, e, r, rest ++ more, begun.append ts, hbefore, hevents, rfl⟩
  | release on => cases on <;> exact o
  | _ => exact o

structure Kept (h : H) (mask : Bool) (ss : List Step) (now : Engine (Traced H)) : Prop where
  faithful : now.hardware.Faithful h
  orderly : Throughout (Orderly h mask ss) now.hardware.events
  accounted : Accounted (fresh h mask) ss now

variable {now : Engine (Traced H)}

theorem Kept.append (k : Kept h mask ss now) (ts : List Step) : Kept h mask (ss ++ ts) now where
  faithful := k.faithful
  orderly := by
    refine k.orderly.mono ?_
    intro before ev later o
    simpa using o.append ts []
  accounted := k.accounted.append ts

theorem Kept.orderly_append (k : Kept h mask ss now) {more : List Event}
    (hmore : Throughout (fun before => Orderly h mask ss (now.hardware.events ++ before)) more) :
    Throughout (Orderly h mask ss) (now.hardware.events ++ more) := by
  refine Hardware.throughout_append.2 ⟨k.orderly.mono ?_, hmore⟩
  intro before ev later o
  simpa using o.append [] more

theorem kept_fresh (h : H) (mask : Bool) : Kept h mask [] (fresh h mask) where
  faithful := ⟨rfl, Hardware.throughout_nil⟩
  orderly := Hardware.throughout_nil
  accounted := by simp [Accounted, fresh, new]

variable [LawfulHardware H]

theorem orderly_up {es : List Event} {c : Course} (hc : c.isUp = true)
    (genuine : Genuine h (es ++ c.events mask)) :
    Throughout (fun before => Orderly h mask ss (es ++ before)) (c.events mask) := by
  cases c with
  | releaseRefused e => simp [Course.events, Orderly]
  | scrubFailed e r =>
    have hevents : es ++ (Course.scrubFailed e r).events mask =
        (es ++ ⟨.release true, .ok ()⟩ :: [⟨.loadSecondLevelGating, .ok ()⟩,
          ⟨.loadBlockLevelGating, .ok ()⟩, ⟨.awaitScrub, .error e⟩]) ++ [⟨.release false, r⟩] := by
      simp [Course.events, Course.opening]
    rw [hevents] at genuine
    have hout := Hardware.inReset_replay_of_last (genuine_append.1 genuine).1 (by simp [Event.Moves])
    simpa [Course.events, Course.opening, Orderly] using hout
  | idleFailed e => simp [Course.events, Course.opening, Orderly]
  | enabled => simp [Course.events, Course.opening, Orderly]
  | _ => cases hc

theorem orderly_resetting {e : Engine (Traced H)} {r : Except Fault Unit}
    (begun : Begun (fresh h mask) ss .disable e)
    (out : Hardware.inReset (replay e.hardware.events h) = false)
    (hevents : (disable e).state.hardware.events =
      e.hardware.events ++ (Course.masking mask ++ [⟨.release false, r⟩])) :
    Throughout (fun before => Orderly h mask ss (e.hardware.events ++ before))
      (Course.masking mask ++ [⟨.release false, r⟩]) := by
  cases mask with
  | false => simpa [Course.masking, Orderly] using out
  | true =>
    have masked : Hardware.inReset (replay (e.hardware.events ++ [⟨.setInterrupt false, .ok ()⟩]) h) =
        false := by
      rw [replay_append]
      exact (LawfulHardware.inReset_setInterrupt false _).trans out
    simp only [Course.masking, if_true, List.singleton_append, Hardware.throughout_cons,
      List.append_nil]
    exact ⟨⟨rfl, rfl, e, r, [], begun, rfl, hevents, rfl⟩, masked, Hardware.throughout_nil⟩

theorem orderly_down {e : Engine (Traced H)} (begun : Begun (fresh h mask) ss .disable e)
    (f : e.hardware.Faithful h) :
    Throughout (fun before => Orderly h mask ss (e.hardware.events ++ before))
      ((down mask e.hardware.hardware).1.events mask) := by
  obtain ⟨-, hevents⟩ := disable_traced e
  rw [begun.manageInterrupt] at hevents
  change _ = _ ++ (down mask e.hardware.hardware).1.events mask at hevents
  have hdown := isUp_down mask e.hardware.hardware
  have hout (hd : (down mask e.hardware.hardware).1 ≠ .alreadyInReset) :
      Hardware.inReset (replay e.hardware.events h) = false := by
    rw [← f.replayed]
    exact inReset_of_down_ne hd
  generalize (down mask e.hardware.hardware).1 = c at hevents hdown hout ⊢
  cases c with
  | alreadyInReset => exact Hardware.throughout_nil
  | resetRefused x => exact orderly_resetting begun (hout Course.noConfusion) hevents
  | putInReset => exact orderly_resetting begun (hout Course.noConfusion) hevents
  | _ => cases hdown

theorem Kept.enable (k : Kept h mask ss now) (begun : Begun (fresh h mask) ss .enable now) :
    Kept h mask ss (enable now).state := by
  obtain ⟨-, hevents⟩ := enable_traced now
  rw [begun.manageInterrupt] at hevents
  have faithful := faithful_enable k.faithful
  refine ⟨faithful, ?_, k.accounted.enable begun⟩
  rw [hevents]
  refine k.orderly_append (orderly_up (isUp_up _) ?_)
  have genuine := faithful.genuine
  rwa [hevents] at genuine

theorem Kept.disable (k : Kept h mask ss now) (begun : Begun (fresh h mask) ss .disable now) :
    Kept h mask ss (disable now).state := by
  refine ⟨faithful_disable k.faithful, ?_, k.accounted.disable⟩
  rw [(disable_traced now).2, begun.manageInterrupt]
  exact k.orderly_append (orderly_down begun k.faithful)

theorem kept_after (h : H) (mask : Bool) (ss : List Step) :
    Kept h mask ss (after ss (fresh h mask)) :=
  after_induction (kept_fresh h mask) (fun _ s _ k => k.append [s])
    (fun _ _ begun k => k.enable begun) (fun _ _ begun k => k.disable begun) ss

end Orderly

structure Conduct (h : H) (mask : Bool) (ss : List Step) (now : Engine (Traced H)) : Prop where
  enabled : now.state = .enabled ↔ Rose (fresh h mask) ss (.ok ()) now
  scrubbing : now.state = .scrubbing ↔ ∃ x, Rose (fresh h mask) ss (.error x) now
  orderly : Throughout (Orderly h mask ss) now.hardware.events
  faithful : now.hardware.Faithful h
  unrecorded : now.unrecorded = after ss (new h mask)

theorem conduct_after [LawfulHardware H] (h : H) (mask : Bool) (ss : List Step) :
    Conduct h mask ss (after ss (fresh h mask)) := by
  have kept := kept_after h mask ss
  constructor
  case enabled =>
    constructor
    · intro hs
      obtain ⟨r, hr, rose⟩ := kept.accounted (.inl hs)
      rw [hs] at hr
      cases r with
      | ok => exact rose
      | error x => cases hr
    · intro rose
      exact (Option.some.inj rose.state_eq).symm
  case scrubbing =>
    constructor
    · intro hs
      obtain ⟨r, hr, rose⟩ := kept.accounted (.inr hs)
      rw [hs] at hr
      cases r with
      | ok => cases hr
      | error x => exact ⟨x, rose⟩
    · rintro ⟨x, rose⟩
      exact (Option.some.inj rose.state_eq).symm
  case orderly => exact kept.orderly
  case faithful => exact kept.faithful
  case unrecorded => exact (after_unrecorded ss (fresh h mask)).symm

def refusingBoard : Board where
  inReset := true
  supported := true
  releaseOn := .inTurn [none, some (.hardware (-5))]
  releaseOff := .always (some (.hardware (-5)))
  scrub := .always none
  idle := .always none

theorem conduct_after_refused :
    let ss := [Step.enable, .enable, .disable]
    let e := after ss (fresh refusingBoard true)
    e.state = .enabled ∧ Rose (fresh refusingBoard true) ss (.ok ()) e := by
  have conduct := conduct_after refusingBoard true [.enable, .enable, .disable]
  exact ⟨rfl, conduct.enabled.1 rfl⟩

end FalconPmu.Engine
