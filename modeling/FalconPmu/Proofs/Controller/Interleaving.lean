import FalconPmu.Engine.Board
import FalconPmu.Firmware.Shelf
import FalconPmu.Proofs.Controller.Likeness

namespace FalconPmu.Controller

variable {H L B : Type}

def Move.isSoftware (m : Move H L) : Bool := m.engine?.isNone

def engineReport? (r : Report Step) : Option (Report Engine.Step) :=
  r.step.engine?.map fun x => ⟨x, r.result, r.journal⟩

def isSoftwareReport (r : Report Step) : Bool := r.step.engine?.isNone

variable [Hardware H] [Blob B] [Loader L B]

theorem act_of_engine {m : Move H L} {n : Engine.Move H} (h : m.engine? = some n)
    (s : Controller H B × L) :
    (m.act s).state = ({ s.1 with engine := (n.act s.1.engine).state }, s.2) ∧
      (m.act s).reports.filterMap engineReport? = (n.act s.1.engine).reports ∧
      (m.act s).reports.filter isSoftwareReport = [] := by
  cases m with
  | step x =>
    cases x with
    | engine x =>
      cases h
      exact ⟨rfl, rfl, rfl⟩
    | _ => cases h
  | hardware f =>
    cases h
    exact ⟨rfl, rfl, rfl⟩
  | loader f => cases h

theorem act_of_software {m : Move H L} (h : m.engine? = none) (s : Controller H B × L) :
    (m.act s).state.1.engine = s.1.engine ∧
      (m.act s).reports.filterMap engineReport? = [] ∧
      (m.act s).reports.filter isSoftwareReport = (m.act s).reports := by
  cases m with
  | step x =>
    have quiet : x.engine? = none := Option.map_eq_none_iff.1 h
    refine ⟨engine_run quiet s, ?_, ?_⟩ <;>
      simp [Move.act, Outcome.transcript, engineReport?, isSoftwareReport, quiet]
  | hardware f => cases h
  | loader f => exact ⟨rfl, rfl, rfl⟩

theorem play_engine (ms : List (Move H L)) (s : Controller H B × L) :
    Engine.play (ms.filterMap Move.engine?) s.1.engine =
      ⟨(play ms s).reports.filterMap engineReport?, (play ms s).state.1.engine⟩ := by
  induction ms generalizing s with
  | nil => rfl
  | cons m ms ih =>
    have ih := ih (m.act s).state
    simp only [Engine.play, play, transcribe, List.filterMap_append] at ih ⊢
    cases hm : m.engine? with
    | none =>
      obtain ⟨hengine, hreports, -⟩ := act_of_software hm s
      rw [List.filterMap_cons_none hm, hreports, ← hengine, ih]
      rfl
    | some n =>
      obtain ⟨hstate, hreports, -⟩ := act_of_engine hm s
      have hengine : (m.act s).state.1.engine = (n.act s.1.engine).state := by rw [hstate]
      rw [List.filterMap_cons_some hm, transcribe, ← hengine, ih, hreports]

/-- The hardware's answer whether there is a usable unit is the same throughout. -/
def Steady (ms : List (Move H L)) (s : Controller H B × L) : Prop :=
  ∀ before, before <+: ms →
    Hardware.supported (play before s).state.1.engine.hardware =
      Hardware.supported s.1.engine.hardware

theorem play_software {ms : List (Move H L)} {s s' : Controller H B × L} (h : Alike Eq Eq s s')
    (steady : Steady ms s) :
    (play (ms.filter Move.isSoftware) s').reports = (play ms s).reports.filter isSoftwareReport ∧
      Alike Eq Eq (play ms s).state (play (ms.filter Move.isSoftware) s').state := by
  induction ms generalizing s s' with
  | nil => exact ⟨rfl, h⟩
  | cons m ms ih =>
    have first : Hardware.supported (m.act s).state.1.engine.hardware =
        Hardware.supported s.1.engine.hardware := steady [m] (List.prefix_append [m] ms)
    have rest : Steady ms (m.act s).state := by
      intro before hbefore
      exact (steady (m :: before) (List.prefix_cons_inj m |>.2 hbefore)).trans first.symm
    simp only [play, transcribe, List.filter_append] at ih ⊢
    cases hm : m.engine? with
    | some n =>
      obtain ⟨hstate, -, hreports⟩ := act_of_engine hm s
      have hsoftware : m.isSoftware = false := by rw [Move.isSoftware, hm]; rfl
      -- Only the first run makes the move. Likeness survives, since of the engine only the answer counts.
      have alike : Alike Eq Eq (m.act s).state s' := by
        have supported := first.trans h.supported
        rw [hstate] at supported ⊢
        exact h.withEngine supported
      rw [List.filter_cons_of_neg (by simp [hsoftware]), hreports, List.nil_append]
      exact ih alike rest
    | none =>
      obtain ⟨-, -, hreports⟩ := act_of_software hm s
      have hsoftware : m.isSoftware = true := by rw [Move.isSoftware, hm]; rfl
      have alike := act_alike Loader.twins_eq m.twin_eq hm h
      obtain ⟨hrest, hstate⟩ := ih alike.state rest
      rw [List.filter_cons_of_pos hsoftware, hreports, transcribe, hrest, alike.reports]
      exact ⟨rfl, hstate⟩

structure Parted (whole software : Transcript Step (Controller H B × L))
    (engine : Transcript Engine.Step (Engine H)) : Prop where
  state : whole.state = ({ software.state.1 with engine := engine.state }, software.state.2)
  engineReports : whole.reports.filterMap engineReport? = engine.reports
  softwareReports : whole.reports.filter isSoftwareReport = software.reports

theorem Steady.parted {ms : List (Move H L)} {s : Controller H B × L} (steady : Steady ms s) :
    Parted (play ms s) (play (ms.filter Move.isSoftware) s)
      (Engine.play (ms.filterMap Move.engine?) s.1.engine) := by
  obtain ⟨hreports, halike⟩ := play_software (.refl s) steady
  have hengine := play_engine ms s
  constructor
  case state =>
    obtain ⟨hcontroller, hloader⟩ := halike.eq
    rw [hengine]
    exact Prod.ext hcontroller hloader
  case engineReports => rw [hengine]
  case softwareReports => exact hreports.symm

theorem Steady.of_engine {ms ns : List (Move H L)} {s : Controller H B × L} (steady : Steady ms s)
    (same : ns.filterMap Move.engine? = ms.filterMap Move.engine?) : Steady ns s := by
  intro before hbefore
  have hprefix := hbefore.filterMap Move.engine?
  rw [same] at hprefix
  obtain ⟨before', hbefore', heq⟩ := List.prefix_filterMap_iff.1 hprefix
  -- The engine moves made so far are those of a part of the other run as well.
  have met : (play before s).state.1.engine = (play before' s).state.1.engine := by
    have hengine := play_engine before s
    rw [heq, play_engine before' s] at hengine
    exact (congrArg Transcript.state hengine).symm
  rw [met]
  exact steady before' hbefore'

/-- If the hardware keeps to its answer, a run leads where the engine moves on the engine alone and the
software moves on a controller to itself lead, the record of the hardware and that of the loader included,
and every step reports what it reports there. The same holds of every other run that is made of the same
engine moves and the same software moves. -/
theorem parted_play (hardware : Hardware.Traced H) (k : Capabilities) (l : Loader.Traced L B)
    (ms : List (Move (Hardware.Traced H) (Loader.Traced L B)))
    (steady : Steady ms (new hardware k, l)) :
    let start : Controller (Hardware.Traced H) B × Loader.Traced L B := (new hardware k, l)
    let software := play (ms.filter Move.isSoftware) start
    let engine := Engine.play (ms.filterMap Move.engine?) (Engine.new hardware k.manageInterrupt)
    Parted (play ms start) software engine ∧
      ∀ ns : List (Move (Hardware.Traced H) (Loader.Traced L B)),
        ns.filterMap Move.engine? = ms.filterMap Move.engine? →
        ns.filter Move.isSoftware = ms.filter Move.isSoftware →
        Parted (play ns start) software engine := by
  intro start software engine
  refine ⟨steady.parted, ?_⟩
  intro ns sameEngine sameSoftware
  have parted := (steady.of_engine sameEngine).parted
  rwa [sameEngine, sameSoftware] at parted

set_option maxRecDepth 4000 in
theorem parted_play_reset :
    let board : Hardware.Traced Board :=
      ⟨⟨false, true, .always none, .always none, .always none, .always none⟩, []⟩
    let shelf : Loader.Traced Shelf NumberedBlob := ⟨⟨[("gpmu_ucode.bin", Firmware.bare 20490253)], 0⟩, []⟩
    let start : Controller (Hardware.Traced Board) NumberedBlob × Loader.Traced Shelf NumberedBlob :=
      (new board ⟨true, false, true, true, true, true, false, true⟩, shelf)
    let early := [.step (.engine .reset), .step .initSoftware]
    let late := [.step .initSoftware, .step (.engine .reset)]
    Steady early start ∧ (play late start).state = (play early start).state ∧
      (play late start).state.1.engine.state = .enabled ∧
      (play late start).state.1.engine.hardware.events.map Hardware.Event.call =
        [.setInterrupt false, .release false, .release true, .loadSecondLevelGating,
          .loadBlockLevelGating, .awaitScrub, .awaitIdle] ∧
      (play late start).state.1.interface.active.map Bundle.family = some .gm20b := by
  intro board shelf start early late
  have steady : Steady early start := by
    intro before hbefore
    simp only [early, List.prefix_cons_iff, List.prefix_nil] at hbefore
    obtain rfl | ⟨_, rfl, rfl | ⟨_, rfl, rfl⟩⟩ := hbefore
    · rfl
    · rfl
    · rfl
  obtain ⟨parted, other⟩ := parted_play board _ shelf early steady
  have state : (play late start).state = (play early start).state :=
    (other late rfl rfl).state.trans parted.state.symm
  refine ⟨steady, state, ?_⟩
  rw [state]
  exact ⟨by rfl, by rfl, by rfl⟩

end FalconPmu.Controller
