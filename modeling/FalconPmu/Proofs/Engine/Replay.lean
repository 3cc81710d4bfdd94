import FalconPmu.Proofs.Engine.Agreement

/-!
A record of calls told again: where each call found the hardware, and that the results recorded are the
ones the hardware gave. On lawful hardware the record alone tells where the reset line is.
-/

namespace FalconPmu

namespace Hardware

def Throughout (Q : List Event → Event → List Event → Prop) (es : List Event) : Prop :=
  ∀ before ev later, es = before ++ ev :: later → Q before ev later

section Throughout

variable {Q : List Event → Event → List Event → Prop}

@[simp] theorem throughout_nil : Throughout Q [] := by
  intro before ev later h
  simp at h

@[simp] theorem throughout_cons {ev : Event} {es : List Event} :
    Throughout Q (ev :: es) ↔ Q [] ev es ∧ Throughout (fun before => Q (ev :: before)) es := by
  constructor
  · intro h
    refine ⟨h [] ev es rfl, ?_⟩
    rintro before x later rfl
    exact h (ev :: before) x later rfl
  · rintro ⟨hev, hes⟩ before x later h
    cases before with
    | nil =>
      cases h
      exact hev
    | cons y before =>
      cases h
      exact hes before x later rfl

theorem throughout_append {es fs : List Event} :
    Throughout Q (es ++ fs) ↔ Throughout (fun before ev later => Q before ev (later ++ fs)) es ∧
      Throughout (fun before => Q (es ++ before)) fs := by
  induction es generalizing Q with
  | nil => simp
  | cons e es ih => simp [ih, and_assoc]

theorem Throughout.mono {Q' : List Event → Event → List Event → Prop} {es : List Event}
    (h : Throughout Q es) (hQ : ∀ before ev later, Q before ev later → Q' before ev later) :
    Throughout Q' es :=
  fun before ev later hes => hQ before ev later (h before ev later hes)

end Throughout

variable {H : Type} [Hardware H]

def Call.perform : Call → H → Except Fault Unit × H
  | release on, h => Hardware.release on h
  | setInterrupt on, h => (.ok (), Hardware.setInterrupt on h)
  | awaitScrub, h => Hardware.awaitScrub h
  | awaitIdle, h => Hardware.awaitIdle h
  | loadSecondLevelGating, h => (.ok (), Hardware.loadSecondLevelGating h)
  | loadBlockLevelGating, h => (.ok (), Hardware.loadBlockLevelGating h)

def replay (es : List Event) (h : H) : H := es.foldl (fun h ev => (ev.call.perform h).2) h

theorem replay_append (es fs : List Event) (h : H) :
    replay (es ++ fs) h = replay fs (replay es h) := List.foldl_append

/-- The results recorded are those that the hardware gives when the calls are made again. -/
def Genuine (h : H) (es : List Event) : Prop :=
  Throughout (fun before ev _ => (ev.call.perform (replay before h)).1 = ev.result) es

theorem genuine_append {h : H} {es fs : List Event} :
    Genuine h (es ++ fs) ↔ Genuine h es ∧ Genuine (replay es h) fs := by
  simp only [Genuine, throughout_append, replay_append]

theorem genuine_cons {h : H} {ev : Event} {es : List Event} :
    Genuine h (ev :: es) ↔
      (ev.call.perform h).1 = ev.result ∧ Genuine (ev.call.perform h).2 es := throughout_cons

section Line

variable [LawfulHardware H]

theorem inReset_perform {h : H} {ev : Event} (genuine : (ev.call.perform h).1 = ev.result)
    (still : ¬ ev.Moves) : inReset (ev.call.perform h).2 = inReset h := by
  obtain ⟨c, r⟩ := ev
  cases c with
  | release on =>
    cases r with
    | ok => exact absurd ⟨on, rfl⟩ still
    | error e =>
      simp only [Call.perform] at genuine ⊢
      rw [LawfulHardware.inReset_release, genuine]
  | _ => simp [Call.perform]

theorem inReset_replay_of_still {h : H} {es : List Event} (genuine : Genuine h es)
    (still : ∀ ev ∈ es, ¬ ev.Moves) : inReset (replay es h) = inReset h := by
  induction es generalizing h with
  | nil => rfl
  | cons ev es ih =>
    obtain ⟨hev, hes⟩ := genuine_cons.1 genuine
    have hrest := ih hes fun x hx => still x (List.mem_cons_of_mem ev hx)
    exact hrest.trans (inReset_perform hev (still ev List.mem_cons_self))

theorem inReset_replay_of_last {h : H} {before later : List Event} {on : Bool}
    (genuine : Genuine h (before ++ ⟨.release on, .ok ()⟩ :: later))
    (still : ∀ ev ∈ later, ¬ ev.Moves) :
    inReset (replay (before ++ ⟨.release on, .ok ()⟩ :: later) h) = !on := by
  obtain ⟨hev, hlater⟩ := genuine_cons.1 (genuine_append.1 genuine).2
  rw [replay_append]
  refine (inReset_replay_of_still hlater still).trans ?_
  simp only [Call.perform] at hev ⊢
  rw [LawfulHardware.inReset_release, hev]

end Line

namespace Traced

structure Faithful (h : H) (t : Traced H) : Prop where
  replayed : t.hardware = replay t.events h
  genuine : Genuine h t.events

theorem perform_apply (c : Call) (t : Traced H) :
    c.perform t = ((c.perform t.hardware).1,
      ⟨(c.perform t.hardware).2, t.events ++ [⟨c, (c.perform t.hardware).1⟩]⟩) := by
  cases c <;> rfl

theorem Faithful.perform {h : H} {t : Traced H} (f : t.Faithful h) (c : Call) :
    (c.perform t).2.Faithful h := by
  rw [perform_apply]
  constructor
  case replayed =>
    simp only [replay_append, ← f.replayed]
    rfl
  case genuine =>
    refine genuine_append.2 ⟨f.genuine, genuine_cons.2 ⟨?_, throughout_nil⟩⟩
    rw [← f.replayed]

end Traced

end Hardware

namespace Engine

open Hardware (Call)

variable {H : Type} [Hardware H] {P : H → Prop}

theorem perform_preserves (hp : ∀ (c : Call) h, P h → P (c.perform h).2) {c : Call} {h h' : H}
    {r : Except Fault Unit} (hc : c.perform h = (r, h')) (hh : P h) : P h' := by
  have hpc := hp c h hh
  rwa [hc] at hpc

theorem up_preserves (hp : ∀ (c : Call) h, P h → P (c.perform h).2) {h : H} (hh : P h) :
    P (up h).2 := by
  have gated {h : H} (hh : P h) :
      P (Hardware.loadBlockLevelGating (Hardware.loadSecondLevelGating h)) :=
    hp .loadBlockLevelGating _ (hp .loadSecondLevelGating h hh)
  unfold up
  split
  case h_1 hrelease => exact perform_preserves hp (c := .release true) hrelease hh
  case h_2 hrelease =>
    have hout := gated (perform_preserves hp (c := .release true) hrelease hh)
    split
    case h_1 hscrub =>
      exact hp (.release false) _ (perform_preserves hp (c := .awaitScrub) hscrub hout)
    case h_2 hscrub =>
      have hscrubbed := perform_preserves hp (c := .awaitScrub) hscrub hout
      split
      case h_1 hidle => exact perform_preserves hp (c := .awaitIdle) hidle hscrubbed
      case h_2 hidle => exact perform_preserves hp (c := .awaitIdle) hidle hscrubbed

theorem down_preserves (hp : ∀ (c : Call) h, P h → P (c.perform h).2) (mask : Bool) {h : H}
    (hh : P h) : P (down mask h).2 := by
  unfold down
  split
  · exact hh
  have hmask : P (if mask then Hardware.setInterrupt false h else h) := by
    split
    · exact hp (.setInterrupt false) h hh
    · exact hh
  split
  case h_1 hrelease => exact perform_preserves hp (c := .release false) hrelease hmask
  case h_2 hrelease => exact perform_preserves hp (c := .release false) hrelease hmask

end Engine

end FalconPmu
