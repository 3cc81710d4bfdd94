import FalconPmu.Proofs.Engine.Recorded

namespace FalconPmu.Engine

open Hardware (Event Traced)

variable {H : Type} [Hardware H]

def rise (r : Except Fault Unit) : List Event :=
  Course.opening ++ [⟨.awaitScrub, .ok ()⟩, ⟨.awaitIdle, r⟩]

def risen : Except Fault Unit → Course
  | .ok () => .enabled
  | .error e => .idleFailed e

/-- The last call that moved the reset line began a rise: it was the release of an enable, which then saw
the scrub finish and the idle wait answer `r`. -/
def Rose (e₀ : Engine (Traced H)) (ss : List Step) (r : Except Fault Unit) (now : Engine (Traced H)) :
    Prop :=
  ∃ e rest, Begun e₀ ss .enable e ∧
    (enable e).state.hardware.events = e.hardware.events ++ rise r ∧
    now.hardware.events = (enable e).state.hardware.events ++ rest ∧ ∀ ev ∈ rest, ¬ ev.Moves

section Rise

variable {e₀ e now : Engine (Traced H)} {ss : List Step} {r : Except Fault Unit}

theorem Rose.append (h : Rose e₀ ss r now) (ts : List Step) : Rose e₀ (ss ++ ts) r now := by
  obtain ⟨e, rest, begun, hrise, hnow, still⟩ := h
  exact ⟨e, rest, begun.append ts, hrise, hnow, still⟩

theorem Rose.still {now' : Engine (Traced H)} {more : List Event} (h : Rose e₀ ss r now)
    (hmore : now'.hardware.events = now.hardware.events ++ more) (still : ∀ ev ∈ more, ¬ ev.Moves) :
    Rose e₀ ss r now' := by
  obtain ⟨e, rest, begun, hrise, hnow, hrest⟩ := h
  refine ⟨e, rest ++ more, begun, hrise, ?_, List.forall_mem_append.2 ⟨hrest, still⟩⟩
  rw [hmore, hnow, List.append_assoc]

theorem Begun.rose (begun : Begun e₀ ss .enable e)
    (hrise : (enable e).state.hardware.events = e.hardware.events ++ rise r) :
    Rose e₀ ss r (enable e).state :=
  ⟨e, [], begun, hrise, by rw [List.append_nil], by simp⟩

theorem Course.not_moves_of_not_written {c : Course} (hc : c.written = none) (mask : Bool) :
    ∀ ev ∈ c.events mask, ¬ ev.Moves := by
  cases c with
  | releaseRefused e => simp [events, Event.Moves]
  | resetRefused e =>
    exact List.forall_mem_append.2 ⟨not_moves_masking mask, by simp [Event.Moves]⟩
  | _ => cases hc

def Accounted (e₀ : Engine (Traced H)) (ss : List Step) (now : Engine (Traced H)) : Prop :=
  now.state = .enabled ∨ now.state = .scrubbing →
    ∃ r, (risen r).written = some now.state ∧ Rose e₀ ss r now

theorem Accounted.still {now' : Engine (Traced H)} {more : List Event} (h : Accounted e₀ ss now)
    (hstate : now'.state = now.state)
    (hmore : now'.hardware.events = now.hardware.events ++ more) (still : ∀ ev ∈ more, ¬ ev.Moves) :
    Accounted e₀ ss now' := by
  intro hs
  rw [hstate] at hs ⊢
  obtain ⟨r, hr, rose⟩ := h hs
  exact ⟨r, hr, rose.still hmore still⟩

theorem Accounted.append (h : Accounted e₀ ss now) (ts : List Step) :
    Accounted e₀ (ss ++ ts) now := by
  intro hs
  obtain ⟨r, hr, rose⟩ := h hs
  exact ⟨r, hr, rose.append ts⟩

theorem accounted_of_inReset (h : now.state = .inReset) : Accounted e₀ ss now := by
  intro hs
  simp [h] at hs

theorem Accounted.enable (h : Accounted e₀ ss e) (begun : Begun e₀ ss .enable e) :
    Accounted e₀ ss (enable e).state := by
  obtain ⟨hstate, hevents⟩ := enable_traced e
  cases hc : (up e.hardware.hardware).1 with
  | releaseRefused x =>
    rw [hc] at hstate hevents
    exact h.still hstate hevents (Course.not_moves_of_not_written rfl _)
  | scrubFailed x r =>
    rw [hc] at hstate
    exact accounted_of_inReset hstate
  | idleFailed x =>
    rw [hc] at hstate hevents
    exact fun _ => ⟨.error x, congrArg some hstate.symm, begun.rose hevents⟩
  | enabled =>
    rw [hc] at hstate hevents
    exact fun _ => ⟨.ok (), congrArg some hstate.symm, begun.rose hevents⟩
  | _ =>
    have hup := isUp_up e.hardware.hardware
    rw [hc] at hup
    cases hup

theorem Accounted.disable (h : Accounted e₀ ss e) : Accounted e₀ ss (disable e).state := by
  obtain ⟨hstate, hevents⟩ := disable_traced e
  cases hc : (down e.manageInterrupt e.hardware.hardware).1 with
  | resetRefused x =>
    rw [hc] at hstate hevents
    exact h.still hstate hevents (Course.not_moves_of_not_written rfl _)
  | alreadyInReset =>
    rw [hc] at hstate
    exact accounted_of_inReset hstate
  | putInReset =>
    rw [hc] at hstate
    exact accounted_of_inReset hstate
  | _ =>
    have hdown := isUp_down e.manageInterrupt e.hardware.hardware
    rw [hc] at hdown
    cases hdown

end Rise

theorem later_unique {before later before' later' : List Event} {m m' : Event} (hm : m.Moves)
    (hm' : m'.Moves) (still : ∀ ev ∈ later, ¬ ev.Moves) (still' : ∀ ev ∈ later', ¬ ev.Moves)
    (h : before ++ m :: later = before' ++ m' :: later') : m = m' ∧ later = later' := by
  -- Were the splits different, the move of one would lie behind that of the other.
  cases List.append_eq_append_iff.1 h with
  | inl h =>
    obtain ⟨mid, -, h⟩ := h
    cases mid with
    | nil => exact List.cons.inj h
    | cons x mid => exact absurd hm' (still m' (by simp [(List.cons.inj h).2]))
  | inr h =>
    obtain ⟨mid, -, h⟩ := h
    cases mid with
    | nil =>
      obtain ⟨hmm, hlater⟩ := List.cons.inj h
      exact ⟨hmm.symm, hlater.symm⟩
    | cons x mid => exact absurd hm (still' m (by simp [(List.cons.inj h).2]))

theorem rise_unique {before later es rest : List Event} {m : Event} {r : Except Fault Unit}
    (hm : m.Moves) (hrest : ∀ ev ∈ rest, ¬ ev.Moves) (still : ∀ ev ∈ later, ¬ ev.Moves)
    (h : es ++ m :: rest = before ++ (rise r ++ later)) : m :: rest = rise r ++ later := by
  have released : Event.Moves ⟨.release true, .ok ()⟩ := ⟨true, rfl⟩
  have htail : ∀ ev ∈ (rise r).tail, ¬ ev.Moves := by simp [rise, Course.opening, Event.Moves]
  obtain ⟨rfl, rfl⟩ := later_unique hm released hrest (List.forall_mem_append.2 ⟨htail, still⟩) h
  rfl

theorem Course.eq_risen {c : Course} {mask : Bool} {es before later : List Event}
    {r : Except Fault Unit} (hw : c.written.isSome) (hc : c ≠ .alreadyInReset)
    (h : es ++ c.events mask = before ++ (rise r ++ later)) (still : ∀ ev ∈ later, ¬ ev.Moves) :
    c = risen r := by
  have released : Event.Moves ⟨.release true, .ok ()⟩ := ⟨true, rfl⟩
  have put : Event.Moves ⟨.release false, .ok ()⟩ := ⟨false, rfl⟩
  cases c with
  | releaseRefused e => cases hw
  | resetRefused e => cases hw
  | alreadyInReset => exact absurd rfl hc
  | putInReset =>
    have hlast : es ++ masking mask ++ [⟨.release false, .ok ()⟩] = before ++ (rise r ++ later) := by
      rw [← h, events, List.append_assoc]
    cases rise_unique put (by simp) still hlast
  | scrubFailed e recovery =>
    cases recovery with
    | ok u =>
      have hlast : es ++ (opening ++ [⟨.awaitScrub, .error e⟩]) ++ [⟨.release false, .ok ()⟩] =
          before ++ (rise r ++ later) := by
        simp [← h, events]
      cases rise_unique put (by simp) still hlast
    | error e' => cases rise_unique released (by simp [Event.Moves]) still h
  | idleFailed e =>
    cases rise_unique released (by simp [Event.Moves]) still h
    rfl
  | enabled =>
    cases rise_unique released (by simp [Event.Moves]) still h
    rfl

theorem rise_of_append {before later es more : List Event} {r : Except Fault Unit}
    (hmore : ∀ ev ∈ more, ev.call ≠ .awaitIdle) (h : es ++ more = before ++ (rise r ++ later)) :
    ∃ later', es = before ++ (rise r ++ later') ∧ later = later' ++ more := by
  have hidle : before ++ (rise r ++ later) =
      (before ++ (Course.opening ++ [⟨.awaitScrub, .ok ()⟩])) ++ ⟨.awaitIdle, r⟩ :: later := by
    simp [rise]
  rw [hidle] at h
  -- The idle wait that ends the rise is in `es`, as there is none in `more`.
  cases List.append_eq_append_iff.1 h with
  | inl split =>
    obtain ⟨mid, -, rfl⟩ := split
    exact absurd rfl (hmore ⟨.awaitIdle, r⟩ (by simp))
  | inr split =>
    obtain ⟨mid, rfl, hmid⟩ := split
    cases mid with
    | nil =>
      rw [List.nil_append] at hmid
      exact absurd rfl (hmore ⟨.awaitIdle, r⟩ (by simp [← hmid]))
    | cons x mid =>
      obtain ⟨rfl, rfl⟩ := List.cons.inj hmid
      exact ⟨mid, by simp [rise], rfl⟩

theorem Course.not_awaitIdle_of_not_written {c : Course} (hc : c.written = none) (mask : Bool) :
    ∀ ev ∈ c.events mask, ev.call ≠ .awaitIdle := by
  cases c with
  | releaseRefused e => simp [events]
  | resetRefused e => cases mask <;> simp [events, masking]
  | _ => cases hc

section Line

variable [LawfulHardware H] {mask : Bool}

theorem Trail.lastWriter_of_rise {t t' : Traced H} {cs : List Course} (trail : Trail mask t cs t')
    {before later : List Event} {r : Except Fault Unit}
    (h : cs.flatMap (Course.events mask) = before ++ (rise r ++ later))
    (still : ∀ ev ∈ later, ¬ ev.Moves) : Course.lastWriter cs = some (risen r) := by
  have concat {cs : List Course} {c : Course} {later : List Event} (hc : c ≠ .alreadyInReset)
      (ih : ∀ {later}, cs.flatMap (Course.events mask) = before ++ (rise r ++ later) →
        (∀ ev ∈ later, ¬ ev.Moves) → Course.lastWriter cs = some (risen r))
      (h : (cs ++ [c]).flatMap (Course.events mask) = before ++ (rise r ++ later))
      (still : ∀ ev ∈ later, ¬ ev.Moves) : Course.lastWriter (cs ++ [c]) = some (risen r) := by
    rw [List.flatMap_append, List.flatMap_singleton] at h
    rw [Course.lastWriter_concat]
    by_cases hw : c.written.isSome
    · rw [if_pos hw, Course.eq_risen hw hc h still]
    · rw [if_neg hw]
      obtain ⟨later', hcs, rfl⟩ :=
        rise_of_append (Course.not_awaitIdle_of_not_written (by simpa using hw) mask) h
      exact ih hcs (List.forall_mem_append.1 still).1
  induction trail generalizing later with
  | start => simp [rise, Course.opening] at h
  | up _ ih => exact concat (up_ne_alreadyInReset _) ih h still
  | @down cs t' trail ih =>
    by_cases hd : (Engine.down mask t').1 = .alreadyInReset
    · -- The rise has left the line low, so the engine cannot be found in reset here.
      rw [List.flatMap_append, List.flatMap_singleton, hd, Course.events, List.append_nil] at h
      have hout := trail.inReset_of_lastWriter (ih h still)
      rw [inReset_of_alreadyInReset hd] at hout
      cases r <;> cases hout
    · exact concat hd ih h still

theorem Rose.state_eq {h : H} {ss : List Step} {r : Except Fault Unit}
    (rose : Rose (fresh h mask) ss r (after ss (fresh h mask))) :
    (risen r).written = some (after ss (fresh h mask)).state := by
  obtain ⟨e, rest, -, hrise, hnow, still⟩ := rose
  have trail := trail_history mask ss (⟨h, []⟩ : Traced H)
  rw [hrise, List.append_assoc, after_eq] at hnow
  have hlast := trail.lastWriter_of_rise (trail.events.symm.trans hnow) still
  rw [after_eq]
  simp only [Course.settle_eq, fresh, new, hlast, Option.bind_some]
  cases r <;> rfl

end Line

end FalconPmu.Engine
