import FalconPmu.Interface
import FalconPmu.Proofs.Selection
import Mathlib.Data.List.Induction

namespace FalconPmu

namespace Bundle

def Listed (b : Bundle) : Prop := b = ofFamily b.family

structure Numbered (b : Bundle) : Prop where
  powerGating : PowerGating.Revision.ofNumber? b.versions.powerGating = some b.powerGating
  counter : Counter.Revision.ofNumber? b.versions.counter = some b.counter
  bootArgs : BootArgs.Revision.ofNumber? b.versions.bootArgs = some b.bootArgs
  allocation : Allocation.Revision.ofNumber? b.versions.allocation = some b.allocation
  initMessage : InitMessage.Revision.ofNumber? b.versions.initMessage = some b.initMessage
  sampling : Sampling.Revision.ofNumber? b.versions.sampling = some b.sampling

theorem numbered_ofFamily (f : Family) : (ofFamily f).Numbered := by
  cases f <;> exact ⟨rfl, rfl, rfl, rfl, rfl, rfl⟩

theorem Listed.numbered {b : Bundle} (h : b.Listed) : b.Numbered := by
  rw [h]
  exact numbered_ofFamily b.family

/-- What a call should do while the bundle is in force: answer from the bundle itself, or address the
revision of the record that has the number reported. -/
def direct (b : Bundle) : (c : Interface.Call) → Option (Access c.Answer)
  | .family => some (pure b.family)
  | .zbcSave => some (pure b.zbcSave)
  | .bundle => some (pure b)
  | .zbcUpdateCommand => some (pure b.zbcUpdateCommand)
  | .counterIndex => some (pure b.counterIndex)
  | .counterGroup => some (pure b.counterGroup)
  | .pinCounter => (Counter.Revision.ofNumber? b.versions.counter).map fun r => do
    r.run (.set (.index b.counterIndex))
    r.run (.set (.groupId b.counterGroup))
  | .counter c => (Counter.Revision.ofNumber? b.versions.counter).map fun r => r.run c
  | .bootArgs c => (BootArgs.Revision.ofNumber? b.versions.bootArgs).map fun r => r.run c
  | .allocation c => (Allocation.Revision.ofNumber? b.versions.allocation).map fun r => r.run c
  | .initMessage c => (InitMessage.Revision.ofNumber? b.versions.initMessage).map fun r => r.run c
  | .queue number => (InitMessage.Revision.ofNumber? b.versions.initMessage).map fun r => do
    let q ← Access.ofExcept (Queue.ofNumber number)
    r.run (.queue q)
  | .sampling c => (Sampling.Revision.ofNumber? b.versions.sampling).map fun r => r.run c
  | .powerGating c => (PowerGating.Revision.ofNumber? b.versions.powerGating).map fun r => r.run c

/-- The bundle holds the revision that it reports of the record which the call is about. -/
def Accords (b : Bundle) : Interface.Call → Prop
  | .family | .zbcSave | .bundle | .zbcUpdateCommand | .counterIndex | .counterGroup => True
  | .pinCounter | .counter _ => Counter.Revision.ofNumber? b.versions.counter = some b.counter
  | .bootArgs _ => BootArgs.Revision.ofNumber? b.versions.bootArgs = some b.bootArgs
  | .allocation _ => Allocation.Revision.ofNumber? b.versions.allocation = some b.allocation
  | .initMessage _ | .queue _ =>
    InitMessage.Revision.ofNumber? b.versions.initMessage = some b.initMessage
  | .sampling _ => Sampling.Revision.ofNumber? b.versions.sampling = some b.sampling
  | .powerGating _ => PowerGating.Revision.ofNumber? b.versions.powerGating = some b.powerGating

theorem Numbered.accords {b : Bundle} (h : b.Numbered) (c : Interface.Call) : b.Accords c := by
  cases c with
  | pinCounter => exact h.counter
  | counter c => exact h.counter
  | bootArgs c => exact h.bootArgs
  | allocation c => exact h.allocation
  | initMessage c => exact h.initMessage
  | queue number => exact h.initMessage
  | sampling c => exact h.sampling
  | powerGating c => exact h.powerGating
  | _ => exact trivial

theorem Accords.direct {b : Bundle} {c : Interface.Call} (h : b.Accords c) :
    b.direct c = some (b.run c) := by
  cases c with
  | pinCounter => exact congrArg (Option.map _) h
  | counter c => exact congrArg (Option.map _) h
  | bootArgs c => exact congrArg (Option.map _) h
  | allocation c => exact congrArg (Option.map _) h
  | initMessage c => exact congrArg (Option.map _) h
  | queue number => exact congrArg (Option.map _) h
  | sampling c => exact congrArg (Option.map _) h
  | powerGating c => exact congrArg (Option.map _) h
  | _ => rfl

end Bundle

namespace Interface

theorem run_of_none {i : Interface} (h : i.active = none) (c : Call) :
    i.run c = Access.fail .notInitialized := by
  rw [run, h]

theorem run_of_some {i : Interface} {b : Bundle} (h : i.active = some b) (c : Call) :
    i.run c = b.run c := by
  rw [run, h]

theorem publish_apply (version : UInt32) (i : Interface) :
    publish version i = match Bundle.select version with
      | .ok b => ⟨.ok b.family, ⟨some b⟩, [.published b.family b.versions]⟩
      | .error e => ⟨.error e, i, []⟩ := by
  rw [publish]
  cases Bundle.select version with
  | ok b => rfl
  | error e => rfl

theorem publish_of_unsupported {version : UInt32} (h : ∀ f : Family, f.number ≠ version)
    (i : Interface) : publish version i = ⟨.error (.unsupportedVersion version), i, []⟩ := by
  rw [publish_apply]
  cases hs : Bundle.select version with
  | ok b => exact absurd (Bundle.select_eq_ok hs).2 (h b.family)
  | error e =>
    cases (Bundle.select_eq_error hs).1
    rfl

theorem publish_number (f : Family) (i : Interface) :
    publish f.number i = ⟨.ok f, ⟨some (.ofFamily f)⟩,
      [.published f (Bundle.ofFamily f).versions]⟩ := by
  rw [publish_apply, Bundle.select_number]
  simp only [Bundle.family_ofFamily]

theorem active_publish (f : Family) (i : Interface) :
    (publish f.number i).state.active = some (.ofFamily f) := by
  rw [publish_number]

inductive Step where
  | publish (version : UInt32)
  | install (b : Bundle)
  | clear

namespace Step

def act : Step → Action Interface Unit
  | publish version => do
    let _ ← Interface.publish version
  | install b => Interface.install b
  | clear => Interface.clear

inductive Chooses : Step → Bundle → Prop
  | publish {version b} : Bundle.select version = .ok b → Chooses (.publish version) b
  | install {b} : Chooses (.install b) b

inductive Fails : Step → Prop
  | publish {version e} : Bundle.select version = .error e → Fails (.publish version)

theorem act_of_chooses {s : Step} {b : Bundle} (h : s.Chooses b) (i : Interface) :
    (s.act i).state = ⟨some b⟩ := by
  cases h with
  | publish h => simp [act, Action.bind_apply, publish_apply, h]
  | install => rfl

theorem act_of_fails {s : Step} (h : s.Fails) (i : Interface) : (s.act i).state = i := by
  cases h with
  | publish h => simp [act, Action.bind_apply, publish_apply, h]

end Step

def after (ss : List Step) (i : Interface) : Interface := ss.foldl (fun i s => (s.act i).state) i

theorem after_concat (ss : List Step) (s : Step) (i : Interface) :
    after (ss ++ [s]) i = (s.act (after ss i)).state := by
  simp [after]

def LastChosen (ss : List Step) (b : Bundle) : Prop :=
  ∃ before s later, ss = before ++ s :: later ∧ s.Chooses b ∧ ∀ x ∈ later, x.Fails

theorem lastChosen_concat {ss : List Step} {s : Step} {b : Bundle} :
    LastChosen (ss ++ [s]) b ↔ s.Chooses b ∨ s.Fails ∧ LastChosen ss b := by
  constructor
  · intro h
    obtain ⟨before, t, later, heq, hchosen, hlater⟩ := h
    -- Either nothing comes after the choice, and the choice is `s`, or what comes after it ends with `s`.
    cases later using List.reverseRecOn with
    | nil =>
      obtain ⟨-, hs⟩ := List.append_inj' heq rfl
      cases hs
      exact .inl hchosen
    | append_singleton later x =>
      rw [← List.cons_append, ← List.append_assoc] at heq
      obtain ⟨rfl, hx⟩ := List.append_inj' heq rfl
      cases hx
      refine .inr ⟨hlater s (by simp), before, t, later, rfl, hchosen, ?_⟩
      intro x hx
      exact hlater x (List.mem_append_left _ hx)
  · intro h
    cases h with
    | inl h => exact ⟨ss, s, [], rfl, h, by simp⟩
    | inr h =>
      obtain ⟨hfails, before, t, later, rfl, hchosen, hlater⟩ := h
      refine ⟨before, t, later ++ [s], by simp, hchosen, ?_⟩
      intro x hx
      cases List.mem_append.1 hx with
      | inl hx => exact hlater x hx
      | inr hx =>
        rw [List.mem_singleton.1 hx]
        exact hfails

theorem not_lastChosen_nil (b : Bundle) : ¬ LastChosen [] b := by
  intro h
  obtain ⟨before, s, later, heq, -⟩ := h
  simp at heq

theorem Step.clear_or_chooses_or_fails (s : Step) : s = .clear ∨ (∃ b, s.Chooses b) ∨ s.Fails := by
  cases s with
  | clear => exact .inl rfl
  | install b => exact .inr (.inl ⟨b, .install⟩)
  | publish version =>
    cases h : Bundle.select version with
    | ok b => exact .inr (.inl ⟨b, .publish h⟩)
    | error e => exact .inr (.inr (.publish h))

theorem Step.Chooses.unique {s : Step} {b b' : Bundle} (h : s.Chooses b) (h' : s.Chooses b') :
    b = b' := by
  cases h with
  | install =>
    cases h'
    rfl
  | publish h =>
    cases h' with
    | publish h' => exact Except.ok.inj (h.symm.trans h')

theorem Step.Chooses.not_fails {s : Step} {b : Bundle} (h : s.Chooses b) : ¬ s.Fails := by
  intro hfails
  cases hfails with
  | publish hfails =>
    cases h with
    | publish h => cases h.symm.trans hfails

theorem Step.Chooses.listed {s : Step} {b : Bundle} (h : s.Chooses b)
    (installed : s = .install b → b.Listed) : b.Listed := by
  cases h with
  | publish h => exact (Bundle.select_eq_ok h).1
  | install => exact installed rfl

theorem active_after_iff (ss : List Step) (b : Bundle) :
    (after ss empty).active = some b ↔ LastChosen ss b := by
  induction ss using List.reverseRecOn with
  | nil => simp [after, empty, not_lastChosen_nil]
  | append_singleton ss s ih =>
    rw [after_concat, lastChosen_concat]
    cases s.clear_or_chooses_or_fails with
    | inl hclear =>
      cases hclear
      constructor
      · intro h
        cases h
      · intro h
        cases h with
        | inl h => cases h
        | inr h => cases h.1
    | inr h => cases h with
      | inl h =>
        obtain ⟨b', hchosen⟩ := h
        rw [Step.act_of_chooses hchosen]
        constructor
        · intro h
          cases h
          exact .inl hchosen
        · intro h
          cases h with
          | inl h => rw [h.unique hchosen]
          | inr h => exact absurd h.1 hchosen.not_fails
      | inr hfails =>
        rw [Step.act_of_fails hfails, ih]
        constructor
        · intro h
          exact .inr ⟨hfails, h⟩
        · intro h
          cases h with
          | inl h => exact absurd hfails h.not_fails
          | inr h => exact h.2

theorem listed_after {ss : List Step} (installed : ∀ b, .install b ∈ ss → b.Listed) {b : Bundle}
    (hb : (after ss empty).active = some b) : b.Listed := by
  obtain ⟨before, s, later, rfl, hchosen, -⟩ := (active_after_iff ss b).1 hb
  apply hchosen.listed
  rintro rfl
  exact installed b (by simp)

/-- What a caller can rely on after the given steps. Whatever bundle is in force answers for itself. It
answers as the numbers that it reports say where it accords with them, and a listed bundle does so
throughout. -/
structure Faithful (ss : List Step) (i : Interface) : Prop where
  active : ∀ b, i.active = some b ↔ LastChosen ss b
  refuses : ∀ version, (∀ f : Family, f.number ≠ version) →
    publish version i = ⟨.error (.unsupportedVersion version), i, []⟩
  accepts : ∀ f : Family, publish f.number i =
    ⟨.ok f, ⟨some (.ofFamily f)⟩, [.published f (Bundle.ofFamily f).versions]⟩
  withdrawn : i.active = none → ∀ c buffer, i.run c buffer = (.error .notInitialized, buffer)
  served : ∀ b, i.active = some b → ∀ c buffer, i.run c buffer = b.run c buffer
  forwards : ∀ b, i.active = some b → ∀ c, b.Accords c →
    ∃ x, b.direct c = some x ∧ ∀ buffer, i.run c buffer = x buffer
  accords : (∀ b, .install b ∈ ss → b.Listed) →
    ∀ b, i.active = some b → b.Listed ∧ ∀ c, b.Accords c

theorem faithful_after (ss : List Step) : Faithful ss (after ss empty) where
  active := active_after_iff ss
  refuses := fun _ h => publish_of_unsupported h _
  accepts := fun f => publish_number f _
  withdrawn := by
    intro hnone c buffer
    rw [run_of_none hnone, Access.fail_apply]
  served := by
    intro b hb c buffer
    rw [run_of_some hb]
  forwards := by
    intro b hb c haccords
    refine ⟨b.run c, haccords.direct, ?_⟩
    intro buffer
    rw [run_of_some hb]
  accords := by
    intro installed b hb
    have listed := listed_after installed hb
    exact ⟨listed, listed.numbered.accords⟩

def mislabelled : Bundle := { Bundle.ofFamily .gm20b with bootArgs := .v6 }

/-- Nothing keeps a mislabelled bundle from being installed, and then the revision reported is not the one
that answers. -/
theorem not_forwarded_mislabelled :
    let i := after [.install mislabelled] empty
    i.active = some mislabelled ∧ mislabelled.versions.bootArgs = 3 ∧
      BootArgs.Revision.ofNumber? 3 = some .v3 ∧ (BootArgs.Revision.v3.run .size []).1 = .ok 32 ∧
      (i.run (.bootArgs .size) []).1 = .ok 60 ∧
      ¬ ∃ x, mislabelled.direct (.bootArgs .size) = some x ∧
        ∀ buffer, i.run (.bootArgs .size) buffer = x buffer := by
  intro i
  refine ⟨rfl, rfl, rfl, rfl, rfl, ?_⟩
  rintro ⟨x, hx, same⟩
  cases hx
  cases congrArg Prod.fst (same [])

end Interface

end FalconPmu
