import FalconPmu.Engine.Board
import FalconPmu.Proofs.Engine.Run

/-!
How far the tracked state agrees with the reset line. A recovery that fails after a failed scrub leaves
the engine marked as in reset while it is out of it. There is no other disagreement, and this one lasts
until a reset or a release succeeds.
-/

namespace FalconPmu

def Hardware.Event.Moves (ev : Hardware.Event) : Prop := ∃ on, ev = ⟨.release on, .ok ()⟩

namespace Engine

open Hardware (Event Traced)

/-- A scrub failed, the recovery from it failed, and no reset or release has succeeded since. -/
def Stranded (es : List Event) : Prop :=
  ∃ before e e' later,
    es = before ++ ⟨.awaitScrub, .error e⟩ :: ⟨.release false, .error e'⟩ :: later ∧
    ∀ ev ∈ later, ¬ ev.Moves

def Course.RecoveryFailed (c : Course) : Prop := ∃ e e', c = .scrubFailed e (.error e')

theorem not_stranded_of_scrubbed {es : List Event}
    (h : ∀ e, (⟨.awaitScrub, .error e⟩ : Event) ∉ es) : ¬ Stranded es := by
  rintro ⟨before, e, e', later, rfl, -⟩
  exact h e (by simp)

theorem stranded_append_moves (es t : List Event) {m : Event} (hm : m.Moves) :
    Stranded (es ++ m :: t) ↔ Stranded t := by
  obtain ⟨on, rfl⟩ := hm
  constructor
  · rintro ⟨before, e, e', later, heq, hlater⟩
    cases List.append_eq_append_iff.1 heq with
    | inl h =>
      obtain ⟨mid, rfl, h⟩ := h
      cases mid with
      | nil => simp at h
      | cons x mid =>
        obtain ⟨-, rfl⟩ := List.cons.inj h
        exact ⟨mid, e, e', later, rfl, hlater⟩
    | inr h =>
      obtain ⟨mid, rfl, h⟩ := h
      -- The move stands in the pattern, which holds none, or after it, where none may stand.
      match mid, h with
      | [], h => simp at h
      | [_], h => simp at h
      | _ :: _ :: mid, h =>
        simp only [List.cons_append, List.cons.injEq] at h
        exact (hlater ⟨.release on, .ok ()⟩ (by simp [h.2.2]) ⟨on, rfl⟩).elim
  · rintro ⟨before, e, e', later, rfl, hlater⟩
    exact ⟨es ++ ⟨.release on, .ok ()⟩ :: before, e, e', later, by simp, hlater⟩

theorem not_stranded_append_moves {es t : List Event} {m : Event} (hm : m.Moves)
    (ht : ∀ e, (⟨.awaitScrub, .error e⟩ : Event) ∉ t) : ¬ Stranded (es ++ m :: t) := by
  rw [stranded_append_moves es t hm]
  exact not_stranded_of_scrubbed ht

theorem stranded_append_still (es t : List Event) (hmove : ∀ ev ∈ t, ¬ ev.Moves)
    (hscrub : ∀ e, (⟨.awaitScrub, .error e⟩ : Event) ∉ t)
    (hlast : ∀ e, es.getLast? ≠ some ⟨.awaitScrub, .error e⟩) :
    Stranded (es ++ t) ↔ Stranded es := by
  constructor
  · rintro ⟨before, e, e', later, heq, hlater⟩
    cases List.append_eq_append_iff.1 heq with
    | inl h =>
      obtain ⟨mid, -, rfl⟩ := h
      exact (hscrub e (by simp)).elim
    | inr h =>
      obtain ⟨mid, rfl, h⟩ := h
      match mid, h with
      | [], h =>
        rw [List.nil_append] at h
        exact (hscrub e (by simp [← h])).elim
      | [x], h =>
        simp only [List.cons_append, List.cons.injEq] at h
        exact (hlast e (by simp [← h.1])).elim
      | x :: y :: mid, h =>
        simp only [List.cons_append, List.cons.injEq] at h
        obtain ⟨rfl, rfl, rfl⟩ := h
        exact ⟨before, e, e', mid, rfl, fun ev hev => hlater ev (by simp [hev])⟩
  · rintro ⟨before, e, e', later, rfl, hlater⟩
    refine ⟨before, e, e', later ++ t, by simp, fun ev hev => ?_⟩
    cases List.mem_append.1 hev with
    | inl h => exact hlater ev h
    | inr h => exact hmove ev h

theorem Course.line_eq_false {c : Course}
    (h : c.written = some .enabled ∨ c.written = some .scrubbing) (b : Bool) : c.line b = false := by
  cases c with
  | idleFailed e => rfl
  | enabled => rfl
  | _ => simp [written] at h

theorem Course.line_eq_true_iff {c : Course} (h : c.written = some .inReset) (b : Bool) :
    c.line b = true ↔ ¬ c.RecoveryFailed := by
  cases c with
  | scrubFailed e r => cases r <;> simp [line, RecoveryFailed]
  | alreadyInReset => simp [line, RecoveryFailed]
  | putInReset => simp [line, RecoveryFailed]
  | _ => simp [written] at h

theorem Course.getLast?_events (mask : Bool) (c : Course) (es : List Event)
    (hes : ∀ e, es.getLast? ≠ some ⟨.awaitScrub, .error e⟩) (e : Fault) :
    (es ++ c.events mask).getLast? ≠ some ⟨.awaitScrub, .error e⟩ := by
  cases c with
  | alreadyInReset => simpa [events] using hes e
  | _ => simp [events, List.getLast?_append]

theorem getLast?_flatMap_events (mask : Bool) (cs : List Course) (e : Fault) :
    (cs.flatMap (Course.events mask)).getLast? ≠ some ⟨.awaitScrub, .error e⟩ := by
  induction cs using List.reverseRecOn generalizing e with
  | nil => simp
  | append_singleton cs c ih =>
    rw [List.flatMap_append, List.flatMap_singleton]
    exact c.getLast?_events mask _ ih e

theorem not_moves_masking (mask : Bool) : ∀ ev ∈ Course.masking mask, ¬ ev.Moves := by
  cases mask <;> simp [Course.masking, Event.Moves]

theorem stranded_append_events (mask : Bool) (c : Course) (es : List Event)
    (hes : ∀ e, es.getLast? ≠ some ⟨.awaitScrub, .error e⟩) (hc : c ≠ .alreadyInReset) :
    Stranded (es ++ c.events mask) ↔ if c.written.isSome then c.RecoveryFailed else Stranded es := by
  have released : Event.Moves ⟨.release true, .ok ()⟩ := ⟨true, rfl⟩
  have put : Event.Moves ⟨.release false, .ok ()⟩ := ⟨false, rfl⟩
  cases c with
  | releaseRefused e =>
    simp only [Course.events]
    exact stranded_append_still _ _ (by simp [Event.Moves]) (by simp) hes
  | scrubFailed e r =>
    cases r with
    | ok u =>
      have hevents : es ++ (Course.scrubFailed e (.ok u)).events mask =
          (es ++ Course.opening ++ [⟨.awaitScrub, .error e⟩]) ++ [⟨.release false, .ok ()⟩] := by
        simp [Course.events]
      rw [hevents]
      exact iff_of_false (not_stranded_append_moves put (by simp)) (by rintro ⟨_, _, ⟨⟩⟩)
    | error e' =>
      refine iff_of_true ⟨es ++ Course.opening, e, e', [], ?_, by simp⟩ ⟨e, e', rfl⟩
      simp [Course.events]
  | idleFailed e =>
    exact iff_of_false (not_stranded_append_moves released (by simp)) (by rintro ⟨_, _, ⟨⟩⟩)
  | enabled =>
    exact iff_of_false (not_stranded_append_moves released (by simp)) (by rintro ⟨_, _, ⟨⟩⟩)
  | alreadyInReset => exact absurd rfl hc
  | resetRefused e =>
    refine stranded_append_still _ _ (fun ev hev => ?_) (fun x => ?_) hes
    · cases List.mem_append.1 hev with
      | inl h => exact not_moves_masking mask ev h
      | inr h => simp_all [Event.Moves]
    · cases mask <;> simp [Course.events, Course.masking]
  | putInReset =>
    simp only [Course.events]
    rw [← List.append_assoc]
    exact iff_of_false (not_stranded_append_moves put (by simp)) (by rintro ⟨_, _, ⟨⟩⟩)

def LastRecoveryFailed (cs : List Course) : Prop :=
  ∃ c, Course.lastWriter cs = some c ∧ c.RecoveryFailed

theorem lastRecoveryFailed_concat (cs : List Course) (c : Course) :
    LastRecoveryFailed (cs ++ [c]) ↔
      if c.written.isSome then c.RecoveryFailed else LastRecoveryFailed cs := by
  rw [LastRecoveryFailed, Course.lastWriter_concat]
  by_cases hc : c.written.isSome
  · simp [hc]
  · simp [hc, LastRecoveryFailed]

variable {H : Type} [Hardware H]

theorem up_ne_alreadyInReset (h : H) : (up h).1 ≠ .alreadyInReset := by
  unfold up
  split
  · exact Course.noConfusion
  split
  · exact Course.noConfusion
  split <;> exact Course.noConfusion

theorem inReset_of_alreadyInReset {mask : Bool} {h : H} (hd : (down mask h).1 = .alreadyInReset) :
    Hardware.inReset h = true := by
  by_contra hout
  rw [down, if_neg hout] at hd
  split at hd <;> cases hd

section

variable [LawfulHardware H] {mask : Bool} {h h' : H} {cs : List Course}

theorem Trail.out_of_lastRecoveryFailed (t : Trail mask h cs h') (hcs : LastRecoveryFailed cs) :
    Hardware.inReset h' = false := by
  obtain ⟨c, hc, e, e', rfl⟩ := hcs
  exact t.inReset_of_lastWriter hc

theorem Trail.stranded_iff (t : Trail mask h cs h') :
    Stranded (cs.flatMap (Course.events mask)) ↔ LastRecoveryFailed cs := by
  have concat {cs : List Course} {c : Course} (hc : c ≠ .alreadyInReset)
      (ih : Stranded (cs.flatMap (Course.events mask)) ↔ LastRecoveryFailed cs) :
      Stranded ((cs ++ [c]).flatMap (Course.events mask)) ↔ LastRecoveryFailed (cs ++ [c]) := by
    rw [List.flatMap_append, List.flatMap_singleton, lastRecoveryFailed_concat,
      stranded_append_events mask c _ (getLast?_flatMap_events mask cs) hc, ih]
  induction t with
  | start =>
    refine iff_of_false (not_stranded_of_scrubbed (by simp)) ?_
    rintro ⟨c, hc, -⟩
    cases hc
  | up t ih => exact concat (up_ne_alreadyInReset _) ih
  | @down cs h₁ t ih =>
    by_cases hd : (Engine.down mask h₁).1 = .alreadyInReset
    · -- The line is high here, so no failed recovery can be the last to have written.
      have hcs : ¬ LastRecoveryFailed cs := fun hcs => by
        have hout := t.out_of_lastRecoveryFailed hcs
        rw [inReset_of_alreadyInReset hd] at hout
        cases hout
      rw [lastRecoveryFailed_concat, hd]
      refine iff_of_false ?_ (by rintro ⟨_, _, ⟨⟩⟩)
      simpa [Course.events] using ih.not.2 hcs
    · exact concat hd ih

end

structure Agreement (mask : Bool) (cs : List Course) (e : Engine (Traced H)) : Prop where
  settled : e.state = ((Course.lastWriter cs).bind Course.written).getD .disabled
  recorded : e.hardware.events = cs.flatMap (Course.events mask)
  outOfReset : e.state = .enabled ∨ e.state = .scrubbing → Hardware.inReset e.hardware = false
  inReset : e.state = .inReset → (Hardware.inReset e.hardware = true ↔ ¬ LastRecoveryFailed cs)
  stranded : LastRecoveryFailed cs → e.state = .inReset ∧ Hardware.inReset e.hardware = false
  untilMoved : LastRecoveryFailed cs ↔ Stranded e.hardware.events

theorem Trail.agreement [LawfulHardware H] {mask : Bool} {h t : Traced H} {cs : List Course}
    (trail : Trail mask h cs t) (hstart : h.events = []) :
    Agreement mask cs ⟨t, Course.settle cs .disabled, mask⟩ := by
  have hevents : t.events = cs.flatMap (Course.events mask) := by
    rw [trail.events, hstart, List.nil_append]
  constructor
  case settled => exact Course.settle_eq cs .disabled
  case recorded => exact hevents
  case outOfReset =>
    intro hs
    cases hs with
    | inl hs =>
      obtain ⟨c, hc, hw⟩ := Course.lastWriter_of_settle hs State.noConfusion
      rw [trail.inReset_of_lastWriter hc, Course.line_eq_false (.inl hw)]
    | inr hs =>
      obtain ⟨c, hc, hw⟩ := Course.lastWriter_of_settle hs State.noConfusion
      rw [trail.inReset_of_lastWriter hc, Course.line_eq_false (.inr hw)]
  case inReset =>
    intro hs
    obtain ⟨c, hc, hw⟩ := Course.lastWriter_of_settle hs State.noConfusion
    rw [trail.inReset_of_lastWriter hc, Course.line_eq_true_iff hw]
    simp [LastRecoveryFailed, hc]
  case stranded =>
    intro hcs
    refine ⟨?_, trail.out_of_lastRecoveryFailed hcs⟩
    obtain ⟨c, hc, e, e', rfl⟩ := hcs
    simp [Course.settle_eq, hc, Course.written]
  case untilMoved => rw [hevents, trail.stranded_iff]

theorem Course.settle_ne_disabled (cs : List Course) {s : State} (hs : s ≠ .disabled) :
    settle cs s ≠ .disabled := by
  rw [settle_eq]
  cases hc : lastWriter cs with
  | none => exact hs
  | some c => cases c <;> simp_all [written]

theorem after_ne_disabled (ss : List Step) {e : Engine H} (he : e.state ≠ .disabled) :
    (after ss e).state ≠ .disabled := by
  rw [after_eq]
  exact Course.settle_ne_disabled _ he

/-- Between the operations of a run the state agrees with the line, but for the one exception; and no
run leads back to `disabled`. -/
theorem agreement_after [LawfulHardware H] (h : H) (mask : Bool) (ss : List Step) :
    Agreement mask (history mask ss (⟨h, []⟩ : Traced H)).1
        (after ss (new (⟨h, []⟩ : Traced H) mask)) ∧
      ∀ ts, (after ss (new (⟨h, []⟩ : Traced H) mask)).state ≠ .disabled →
        (after (ss ++ ts) (new (⟨h, []⟩ : Traced H) mask)).state ≠ .disabled := by
  constructor
  · rw [after_eq]
    exact (trail_history mask ss _).agreement rfl
  · intro ts hs
    rw [after_append]
    exact after_ne_disabled ts hs

/-- Scrubs and resets fail here, releases do not. -/
def stuckBoard : Board where
  inReset := false
  supported := true
  releaseOn := .always none
  releaseOff := .always (some (.hardware (-5)))
  scrub := .always (some (.hardware (-110)))
  idle := .always none

theorem agreement_after_stuck :
    let e := after [.enable, .disable] (new (⟨stuckBoard, []⟩ : Traced Board) true)
    e.state = .inReset ∧ Hardware.inReset e.hardware = false ∧ Stranded e.hardware.events := by
  have agreement := (agreement_after stuckBoard true [.enable, .disable]).1
  have last : LastRecoveryFailed (history true [.enable, .disable] (⟨stuckBoard, []⟩ : Traced Board)).1 :=
    ⟨_, rfl, _, _, rfl⟩
  exact ⟨(agreement.stranded last).1, (agreement.stranded last).2, agreement.untilMoved.1 last⟩

end Engine

end FalconPmu
