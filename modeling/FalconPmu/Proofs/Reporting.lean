import FalconPmu.Proofs.Controller.Rollback
import FalconPmu.Proofs.Controller.Waning
import FalconPmu.Proofs.Engine.Verdict

namespace FalconPmu

namespace Notice

def errors (js : List Notice) : Nat := js.countP (fun n => n.level = .error)

@[simp] theorem errors_nil : errors [] = 0 := rfl

@[simp] theorem errors_cons (n : Notice) (js : List Notice) :
    errors (n :: js) = errors js + if n.level = .error then 1 else 0 := by
  simp [errors, List.countP_cons]

@[simp] theorem errors_append (js ks : List Notice) : errors (js ++ ks) = errors js + errors ks :=
  List.countP_append

theorem errors_pos_iff (js : List Notice) : 0 < errors js ↔ ∃ n ∈ js, n.level = .error := by
  simp [errors, List.countP_pos_iff]

def requesting : String := "requesting PMU ucode blob "

def announced? (n : Notice) : Option String :=
  if n.level = .debug ∧ requesting.toList <+: n.text.toList then
    some (String.ofList (n.text.toList.drop requesting.toList.length))
  else none

theorem announced?_blobRequested (name : String) : (blobRequested name).announced? = some name := by
  have htext : (blobRequested name).text.toList = requesting.toList ++ name.toList :=
    String.toList_append
  rw [announced?, htext, if_pos ⟨rfl, List.prefix_append _ _⟩, List.drop_left, String.ofList_toList]

theorem head?_text {n : Notice} (h : ∀ name, n ≠ blobRequested name) :
    n.text.toList.head? ≠ some 'r' := by
  -- Without `simp [text]`, whose equations are slow to come by for texts that are put together.
  unfold text
  split
  case h_1 name => exact absurd rfl (h name)
  all_goals simp

theorem announced?_eq_none {n : Notice} (h : ∀ name, n ≠ blobRequested name) :
    n.announced? = none := by
  refine if_neg ?_
  rintro ⟨-, rest, hrest⟩
  apply head?_text h
  rw [← hrest, List.head?_append]
  rfl

end Notice

open Notice (errors announced?)

variable {σ τ α β : Type}

def Outcome.Failed (o : Outcome σ α) : Prop := ∃ e, o.result = .error e

/-- The outcome has errors in its journal just if it is a failure, and then one of them, or two if there
is `more` to report. -/
structure Outcome.Reported (o : Outcome σ α) (more : Prop) : Prop where
  failed : (∃ n ∈ o.journal, n.level = .error) ↔ o.Failed
  once : o.Failed → ¬ more → errors o.journal = 1
  twice : more → errors o.journal = 2

namespace Outcome.Reported

variable {o : Outcome σ α} {o' : Outcome τ β} {more more' : Prop}

theorem of_errors (h : o.Reported more) (failed : o'.Failed ↔ o.Failed)
    (same : errors o'.journal = errors o.journal) : o'.Reported more where
  failed := by
    rw [← Notice.errors_pos_iff, same, failed, Notice.errors_pos_iff]
    exact h.failed
  once := by
    rw [same, failed]
    exact h.once
  twice := by
    rw [same]
    exact h.twice

theorem of_iff (h : o.Reported more) (same : more ↔ more') : o.Reported more' := by
  rwa [← same]

theorem errors_of_ok (h : o.Reported more) {a : α} (ok : o.result = .ok a) :
    errors o.journal = 0 := by
  have quiet : ¬ 0 < errors o.journal := by
    rw [Notice.errors_pos_iff, h.failed, Outcome.Failed, ok]
    simp
  omega

end Outcome.Reported

namespace Engine

open Hardware (Event)

variable {H : Type}

theorem Course.reported (c : Course) (e : Engine H) :
    Outcome.Reported ⟨c.result, e, c.notices⟩ (∃ x y, c = .scrubFailed x (.error y)) := by
  cases c with
  | scrubFailed x r =>
    cases r with
    | ok u => constructor <;> simp [notices, result, Notice.level, Outcome.Failed]
    | error y => constructor <;> simp [notices, result, Notice.level, Outcome.Failed]
  | _ => constructor <;> simp [notices, result, Notice.level, Outcome.Failed]

/-- The calls end with a scrub wait that failed and with the reset after it, which failed as well. -/
def Abandoned (calls : List Event) : Prop :=
  ∃ x y, [⟨.awaitScrub, .error x⟩, ⟨.release false, .error y⟩] <:+ calls

theorem abandoned_iff (calls : List Event) :
    Abandoned calls ↔
      ∃ x y, [⟨.release false, .error y⟩, ⟨.awaitScrub, .error x⟩] <+: calls.reverse := by
  simp only [Abandoned, ← List.reverse_prefix]
  rfl

theorem abandoned_up {c : Course} (hc : c.isUp = true) (before : List Event) (mask : Bool) :
    Abandoned (before ++ c.events mask) ↔ ∃ x y, c = .scrubFailed x (.error y) := by
  rw [abandoned_iff]
  cases c with
  | releaseRefused e => simp [Course.events]
  | scrubFailed e r => simp [Course.events, Course.opening, eq_comm]
  | idleFailed e => simp [Course.events, Course.opening]
  | enabled => simp [Course.events, Course.opening]
  | _ => cases hc

theorem not_abandoned_down {c : Course} (hc : c.isUp = false) (mask : Bool) :
    ¬ Abandoned (c.events mask) := by
  rw [abandoned_iff]
  cases c with
  | alreadyInReset => simp [Course.events]
  | resetRefused e => cases mask <;> simp [Course.events, Course.masking]
  | putInReset => cases mask <;> simp [Course.events, Course.masking]
  | _ => cases hc

variable [Hardware H]

theorem reported_enable (e : Engine H) (before : List Event) :
    (enable e).Reported (Abandoned (before ++ calls .enable e)) := by
  rw [calls_enable, enable_apply, abandoned_up (isUp_up _)]
  exact Course.reported _ _

theorem reported_disable (e : Engine H) : (disable e).Reported False := by
  have hdown := isUp_down e.manageInterrupt e.hardware
  rw [disable_apply]
  refine (Course.reported _ _).of_iff (iff_of_false ?_ id)
  rintro ⟨x, y, h⟩
  rw [h] at hdown
  cases hdown

theorem errors_reset (e : Engine H) :
    errors (reset e).journal = errors (disable e).journal +
      match (disable e).result with
      | .ok () => errors (enable (disable e).state).journal
      | .error _ => 0 := by
  simp only [reset, Action.bind_apply, Action.note_apply]
  rcases disable e with ⟨_ | _, e', js⟩
  · simp [Notice.level]
  · simp only
    rcases enable e' with ⟨_ | _, e'', js'⟩ <;> simp [Notice.level]

theorem reported_reset (e : Engine H) : (reset e).Reported (Abandoned (calls .reset e)) := by
  have hresult : (reset e).result = _ := run_reset_result e
  have herrors := errors_reset e
  have hdisable := reported_disable e
  rw [calls_reset]
  cases hr : (disable e).result with
  | error x =>
    simp only [hr] at hresult herrors ⊢
    have more : ¬ Abandoned (calls .disable e) := by
      rw [calls_disable]
      exact not_abandoned_down (isUp_down _ _) _
    refine (hdisable.of_iff (iff_of_false id more)).of_errors ?_ herrors
    rw [Outcome.Failed, Outcome.Failed, hresult, hr]
  | ok u =>
    simp only [hr] at hresult herrors ⊢
    rw [hdisable.errors_of_ok hr, Nat.zero_add] at herrors
    refine (reported_enable _ _).of_errors ?_ herrors
    rw [Outcome.Failed, Outcome.Failed, hresult]

end Engine

namespace Firmware

open Loader (Traced requests)

variable {L B : Type}

theorem Course.reported (c : Course B) (l : L) : Outcome.Reported ⟨c.result, l, c.notices⟩ False := by
  have requested (ps : List Part) : errors (ps.map fun p => .blobRequested p.fileName) = 0 := by
    simp [errors, Notice.level]
  have verdict : Outcome.Reported ⟨c.result, l, [c.verdict]⟩ False := by
    cases c <;> constructor <;> simp [result, Course.verdict, Notice.level, Outcome.Failed]
  refine verdict.of_errors Iff.rfl ?_
  rw [notices, Notice.errors_append, requested, Nat.zero_add]

theorem Course.filterMap_announced (c : Course B) :
    c.notices.filterMap announced? = requests c.events := by
  have verdict : [c.verdict].filterMap announced? = [] := by
    cases c <;> simp [Course.verdict, Notice.announced?_eq_none]
  simp only [notices, events, List.filterMap_append, verdict, Loader.requests_append]
  simp [requests, Function.comp_def, Loader.Event.requested?, Notice.announced?_blobRequested]

variable [Loader L B] [Blob B]

structure Announced (secure : Bool) (l : L) (recorded : Outcome (Traced L B) (Firmware B)) : Prop where
  result : recorded.result = (load secure l).result
  journal : recorded.journal = (load secure l).journal
  loader : recorded.state.loader = (load secure l).state
  requests : (load secure l).journal.filterMap announced? = requests recorded.state.events

theorem announced_load (secure : Bool) (l : L) : Announced secure l (load secure ⟨l, []⟩) := by
  have recorded := load_apply secure (⟨l, []⟩ : Traced L B)
  rw [fetch_traced] at recorded
  rw [recorded]
  constructor <;> rw [load_apply]
  exact Course.filterMap_announced _

theorem reported_load (secure : Bool) (l : L) : (load secure l).Reported False := by
  rw [load_apply]
  exact Course.reported _ _

end Firmware

namespace Controller

variable {H L B : Type} [Hardware H] [Blob B] [Loader L B]

theorem Setup.reported {c : Controller H B} {l : L} {o : Outcome (Controller H B × L) Unit}
    (s : Setup c l o) : o.Reported False := by
  cases s with
  | skipped held => constructor <;> simp [Notice.level, Outcome.Failed]
  | unused vacant unit =>
    unfold gateNotices
    split <;> constructor <;> simp [Notice.level, Outcome.Failed]
  | @refused course l' e vacant unit fetched failed =>
    refine (course.reported l').of_errors ?_ rfl
    simp [Outcome.Failed, failed]
  | @loaded f l' vacant unit fetched =>
    refine ((Firmware.Course.loaded f).reported l').of_errors ?_ ?_
    · simp [Outcome.Failed, Firmware.Course.result]
    · simp [Notice.level]

end Controller

theorem reported_operations {H L B : Type} [Hardware H] [Blob B] [Loader L B] :
    (∀ e : Engine H, (Engine.enable e).Reported (Engine.Abandoned (Engine.calls .enable e)) ∧
      (Engine.disable e).Reported False ∧
      (Engine.reset e).Reported (Engine.Abandoned (Engine.calls .reset e))) ∧
    (∀ (secure : Bool) (l : L), (Firmware.load secure l).Reported False ∧
      Firmware.Announced secure l (Firmware.load secure ⟨l, []⟩)) ∧
    ∀ (c : Controller H B) (l : L), (Controller.initSoftware (c, l)).Reported False := by
  refine ⟨fun e => ⟨?_, Engine.reported_disable e, Engine.reported_reset e⟩,
    fun secure l => ⟨Firmware.reported_load secure l, Firmware.announced_load secure l⟩, ?_⟩
  · exact Engine.reported_enable e []
  · intro c l
    exact (Controller.setup_initSoftware c l).reported

theorem reported_operations_stuck :
    let e : Engine Board := ⟨Engine.stuckBoard, .inReset, true⟩
    let c : Controller Board NumberedBlob :=
      ⟨⟨true, true, true, true, true, true, false, true⟩, .empty, e, none, Controller.blankCounter⟩
    let shelf : Shelf := ⟨[("gpmu_ucode_image.bin", [1, 2]), ("gpmu_ucode_desc.bin", [3])], 0⟩
    errors (Engine.enable e).journal = 2 ∧ errors (Engine.reset e).journal = 1 ∧
      errors (Controller.initSoftware (c, shelf)).journal = 1 ∧
      (Firmware.load true shelf).journal.filterMap announced? =
        ["gpmu_ucode_image.bin", "gpmu_ucode_desc.bin", "pmu_sig.bin"] := by
  intro e c shelf
  obtain ⟨engine, load, setup⟩ := reported_operations (H := Board) (L := Shelf) (B := NumberedBlob)
  obtain ⟨enable, -, reset⟩ := engine e
  have stuck : Engine.calls .enable e = Engine.Course.opening ++
      [⟨.awaitScrub, .error (.hardware (-110))⟩, ⟨.release false, .error (.hardware (-5))⟩] := rfl
  have refused : Engine.calls .reset e =
      [⟨.setInterrupt false, .ok ()⟩, ⟨.release false, .error (.hardware (-5))⟩] := rfl
  refine ⟨enable.twice ⟨_, _, _, stuck.symm⟩, reset.once ⟨_, rfl⟩ ?_, ?_, ?_⟩
  · simp [refused, Engine.abandoned_iff]
  · exact (setup c shelf).once ⟨.firmwareLoad "pmu_sig.bin", by rfl⟩ id
  · exact (load true shelf).2.requests

end FalconPmu
