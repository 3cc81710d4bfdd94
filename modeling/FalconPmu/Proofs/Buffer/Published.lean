import FalconPmu.Proofs.Buffer.Records
import FalconPmu.Proofs.Publication

namespace FalconPmu

open Access (Bounded Confined window)

theorem Queue.ofNumber_of_unknown {n : UInt32} (h : ¬ (n = 0 ∨ n = 1 ∨ n = 4)) :
    ofNumber n = .error (.invalidQueueId n) := by
  have hnone : all.find? (fun q => q.number == n) = none := by
    rw [List.find?_eq_none]
    intro q _ hq
    have hn : q.number = n := by simpa using hq
    rw [← hn] at h
    cases q <;> exact h (by decide)
  rw [ofNumber, hnone]

theorem Queue.exists_ofNumber {n : UInt32} (h : n = 0 ∨ n = 1 ∨ n = 4) :
    ∃ q, ofNumber n = .ok q := by
  rcases h with rfl | rfl | rfl
  · exact ⟨.high, rfl⟩
  · exact ⟨.low, rfl⟩
  · exact ⟨.message, rfl⟩

theorem Bundle.Numbered.number_bootArgs {b : Bundle} (h : b.Numbered) :
    b.bootArgs.number = b.versions.bootArgs := by
  simpa using List.find?_some h.bootArgs

theorem Bundle.Numbered.number_allocation {b : Bundle} (h : b.Numbered) :
    b.allocation.number = b.versions.allocation := by
  simpa using List.find?_some h.allocation

namespace Interface

inductive Record where
  | counter
  | bootArgs
  | allocation
  | initMessage
  | sampling (s : Sampling.Shape)
  | powerGating

def Record.size (i : Interface) : Record → Access Nat
  | counter => i.run (.counter .size)
  | bootArgs => i.run (.bootArgs .size)
  | allocation => i.run (.allocation .size)
  | initMessage => i.run (.initMessage .size)
  | sampling s => i.run (.sampling (.size s))
  | powerGating => i.run (.powerGating .size)

def Call.record? : Call → Option Record
  | family | zbcSave | bundle | zbcUpdateCommand | counterIndex | counterGroup => none
  | pinCounter | counter .counter | counter (.set _) => some .counter
  | bootArgs (.get _) | bootArgs (.set _) => some .bootArgs
  | allocation (.get _) | allocation (.set _) => some .allocation
  | initMessage (.queue _) | initMessage .managedAreaOffset | initMessage .managedAreaSize
  | queue _ => some .initMessage
  | sampling .start | sampling .startFlags => some (.sampling .start)
  | sampling .init => some (.sampling .init)
  | sampling (.set u) => some (.sampling u.shape)
  | sampling (.pack c) => some (.sampling c.shape)
  | powerGating (.get _) | powerGating (.set _) => some .powerGating
  | counter .size | bootArgs .size | initMessage .size | powerGating .size
  | allocation .size | allocation .dmemOffsetPosition | allocation .frameBufferSpan
  | sampling (.size _) | sampling (.allocationOffset _) => none

/-- The answer to a call that is given whatever the buffer holds, by the numbers of the revisions in
force. -/
def Call.fixedAnswer (v : Versions) : (c : Call) → Option (Except Fault c.Answer)
  | bootArgs (.set (.traceSize _)) | bootArgs (.set (.traceIndex _)) =>
    if v.bootArgs = 5 ∨ v.bootArgs = 6 then some (.ok ()) else none
  | bootArgs (.set (.superSurface _)) =>
    if v.bootArgs = 3 ∨ v.bootArgs = 4 ∨ v.bootArgs = 5 then some (.ok ()) else none
  | allocation (.get .frameBuffer) =>
    if v.allocation = 1 ∨ v.allocation = 2 then some (.error .noFrameBuffer) else none
  | allocation (.set (.frameBuffer _)) =>
    if v.allocation = 1 ∨ v.allocation = 2 then some (.error .noFrameBuffer) else none
  | queue n => if n = 0 ∨ n = 1 ∨ n = 4 then none else some (.error (.invalidQueueId n))
  | _ => none

namespace Call

theorem fixedAnswer_bootArgs {v : Versions} {r : BootArgs.Revision} (h : r.number = v.bootArgs)
    (u : BootArgs.Update) :
    (bootArgs (.set u)).fixedAnswer v =
      match u.effect r with
      | some _ => none
      | none => some (.ok ()) := by
  unfold fixedAnswer
  cases u <;> cases r <;> simp [← h, BootArgs.Revision.number, BootArgs.Update.effect]

theorem fixedAnswer_frameBuffer {v : Versions} {r : Allocation.Revision}
    (h : r.number = v.allocation) :
    (allocation (.get .frameBuffer)).fixedAnswer v =
      match r.frameBuffer with
      | .ok _ => none
      | .error e => some (.error e) := by
  unfold fixedAnswer
  cases r <;> simp [← h, Allocation.Revision.number, Allocation.Revision.frameBuffer]

theorem fixedAnswer_setFrameBuffer {v : Versions} {r : Allocation.Revision}
    (h : r.number = v.allocation) (d : MemDesc) :
    (allocation (.set (.frameBuffer d))).fixedAnswer v =
      match r.frameBuffer with
      | .ok _ => none
      | .error e => some (.error e) := by
  unfold fixedAnswer
  cases r <;> simp [← h, Allocation.Revision.number, Allocation.Revision.frameBuffer]

theorem fixedAnswer_queue (v : Versions) (n : UInt32) :
    (queue n).fixedAnswer v =
      match Queue.ofNumber n with
      | .ok _ => none
      | .error e => some (.error e) := by
  unfold fixedAnswer
  by_cases h : n = 0 ∨ n = 1 ∨ n = 4
  · obtain ⟨q, hq⟩ := Queue.exists_ofNumber h
    simp [h, hq]
  · simp [h, Queue.ofNumber_of_unknown h]

end Call

end Interface

namespace Bundle

open Interface (Call Record)

def recordSize (b : Bundle) : Record → Nat
  | .counter => b.counter.size
  | .bootArgs => b.bootArgs.size
  | .allocation => b.allocation.size
  | .initMessage => b.initMessage.size
  | .sampling s => b.sampling.size s
  | .powerGating => b.powerGating.size

inductive Served (b : Bundle) (c : Call) (size : Nat) : Option (Except Fault c.Answer) → Prop
  | fixed {answer} (h : ∀ buffer, b.run c buffer = (answer, buffer)) : Served b c size (some answer)
  | confined (h : Confined size (b.run c)) : Served b c size none

theorem served_queue (b : Bundle) (n : UInt32) :
    Served b (.queue n) b.initMessage.size ((Call.queue n).fixedAnswer b.versions) := by
  rw [Call.fixedAnswer_queue]
  cases hq : Queue.ofNumber n with
  | ok q =>
    have hrun : b.run (.queue n) = b.initMessage.run (.queue q) := by
      rw [run, InitMessage.Revision.queueByNumber, hq]
      rfl
    refine .confined ?_
    rw [hrun]
    exact b.initMessage.confined_queue q
  | error e =>
    refine .fixed ?_
    intro buffer
    rw [run, InitMessage.Revision.queueByNumber, hq]
    rfl

theorem served_counter (b : Bundle) {c : Counter.Call} {r : Record}
    (hr : (Call.counter c).record? = some r) :
    Served b (.counter c) (b.recordSize r) ((Call.counter c).fixedAnswer b.versions) := by
  cases c with
  | size => cases hr
  | counter =>
    cases hr
    exact .confined b.counter.confined_counter
  | set u =>
    cases hr
    exact .confined (b.counter.confined_set u)

theorem served_initMessage (b : Bundle) {c : InitMessage.Call} {r : Record}
    (hr : (Call.initMessage c).record? = some r) :
    Served b (.initMessage c) (b.recordSize r) ((Call.initMessage c).fixedAnswer b.versions) := by
  cases c with
  | size => cases hr
  | queue q =>
    cases hr
    exact .confined (b.initMessage.confined_queue q)
  | managedAreaOffset =>
    cases hr
    exact .confined b.initMessage.confined_managedAreaOffset
  | managedAreaSize =>
    cases hr
    exact .confined b.initMessage.confined_managedAreaSize

theorem served_sampling (b : Bundle) {c : Sampling.Call} {r : Record}
    (hr : (Call.sampling c).record? = some r) :
    Served b (.sampling c) (b.recordSize r) ((Call.sampling c).fixedAnswer b.versions) := by
  cases c with
  | start =>
    cases hr
    exact .confined b.sampling.confined_start
  | startFlags =>
    cases hr
    exact .confined b.sampling.confined_startFlags
  | init =>
    cases hr
    exact .confined b.sampling.confined_init
  | set u =>
    cases hr
    exact .confined (b.sampling.confined_set u)
  | pack c =>
    cases hr
    exact .confined (b.sampling.confined_pack c)
  | _ => cases hr

theorem served_powerGating (b : Bundle) {c : PowerGating.Call} {r : Record}
    (hr : (Call.powerGating c).record? = some r) :
    Served b (.powerGating c) (b.recordSize r) ((Call.powerGating c).fixedAnswer b.versions) := by
  cases c with
  | size => cases hr
  | get q =>
    cases hr
    exact .confined (b.powerGating.confined_get q)
  | set u =>
    cases hr
    exact .confined (b.powerGating.confined_set u)

section Served

variable {b : Bundle} (h : b.Numbered)

include h

theorem served_setBootArgs (u : BootArgs.Update) :
    Served b (.bootArgs (.set u)) b.bootArgs.size
      ((Call.bootArgs (.set u)).fixedAnswer b.versions) := by
  rw [Call.fixedAnswer_bootArgs h.number_bootArgs]
  cases hu : u.effect b.bootArgs with
  | some change => exact .confined (BootArgs.Revision.confined_set hu)
  | none =>
    refine .fixed ?_
    intro buffer
    rw [run, BootArgs.Revision.run_set_of_no_effect hu, Access.pure_apply]

theorem served_frameBuffer :
    Served b (.allocation (.get .frameBuffer)) b.allocation.size
      ((Call.allocation (.get .frameBuffer)).fixedAnswer b.versions) := by
  rw [Call.fixedAnswer_frameBuffer h.number_allocation]
  cases hf : b.allocation.frameBuffer with
  | ok f => exact .confined (Allocation.Revision.confined_frameBuffer hf)
  | error e =>
    refine .fixed ?_
    intro buffer
    rw [run, Allocation.Revision.run_frameBuffer_of_error hf, Access.fail_apply]

theorem served_setFrameBuffer (d : MemDesc) :
    Served b (.allocation (.set (.frameBuffer d))) b.allocation.size
      ((Call.allocation (.set (.frameBuffer d))).fixedAnswer b.versions) := by
  rw [Call.fixedAnswer_setFrameBuffer h.number_allocation]
  cases hf : b.allocation.frameBuffer with
  | ok f => exact .confined (Allocation.Revision.confined_setFrameBuffer hf d)
  | error e =>
    refine .fixed ?_
    intro buffer
    rw [run, Allocation.Revision.run_setFrameBuffer_of_error hf, Access.fail_apply]

theorem served_bootArgs {c : BootArgs.Call} {r : Record} (hr : (Call.bootArgs c).record? = some r) :
    Served b (.bootArgs c) (b.recordSize r) ((Call.bootArgs c).fixedAnswer b.versions) := by
  cases c with
  | size => cases hr
  | get q =>
    cases hr
    exact .confined (b.bootArgs.confined_get q)
  | set u =>
    cases hr
    exact served_setBootArgs h u

theorem served_allocation {c : Allocation.Call} {r : Record}
    (hr : (Call.allocation c).record? = some r) :
    Served b (.allocation c) (b.recordSize r) ((Call.allocation c).fixedAnswer b.versions) := by
  cases c with
  | get q =>
    cases hr
    cases q with
    | dmemSize => exact .confined b.allocation.confined_dmemSize
    | dmemOffset => exact .confined b.allocation.confined_dmemOffset
    | frameBuffer => exact served_frameBuffer h
  | set u =>
    cases hr
    cases u with
    | dmemSize n => exact .confined (b.allocation.confined_setDmemSize n)
    | dmemOffset n => exact .confined (b.allocation.confined_setDmemOffset n)
    | frameBuffer d => exact served_setFrameBuffer h d
  | _ => cases hr

theorem served_run {c : Call} {r : Record} (hr : c.record? = some r) :
    Served b c (b.recordSize r) (c.fixedAnswer b.versions) := by
  cases c with
  | pinCounter =>
    cases hr
    exact .confined b.confined_pinCounter
  | counter c => exact served_counter b hr
  | bootArgs c => exact served_bootArgs h hr
  | allocation c => exact served_allocation h hr
  | initMessage c => exact served_initMessage b hr
  | queue n =>
    cases hr
    exact served_queue b n
  | sampling c => exact served_sampling b hr
  | powerGating c => exact served_powerGating b hr
  | _ => cases hr

end Served

end Bundle

namespace Interface

theorem Record.size_apply {i : Interface} {b : Bundle} (h : i.active = some b) (r : Record)
    (buffer : Bytes) : r.size i buffer = (.ok (b.recordSize r), buffer) := by
  cases r <;> rw [size, run_of_some h] <;> rfl

theorem bounded_published (f : Family) (i : Interface) (c : Call) (r : Record)
    (hr : c.record? = some r) :
    let p := (publish f.number i).state
    ∃ size, (∀ buffer, r.size p buffer = (.ok size, buffer)) ∧
      match c.fixedAnswer (Bundle.ofFamily f).versions with
      | some answer => ∀ start len buffer, window start len (p.run c) buffer = (answer, buffer)
      | none => Bounded size (p.run c) := by
  intro p
  have hp : p.active = some (.ofFamily f) := active_publish f i
  have served := Bundle.served_run (Bundle.numbered_ofFamily f) hr
  refine ⟨(Bundle.ofFamily f).recordSize r, Record.size_apply hp r, ?_⟩
  rw [run_of_some hp]
  generalize c.fixedAnswer (Bundle.ofFamily f).versions = answer at served ⊢
  cases served with
  | fixed h =>
    intro start len buffer
    exact Access.window_of_unchanged (h _)
  | confined h => exact h.bounded

theorem bounded_published_pack :
    let p := (publish Family.gm20b.number empty).state
    let c : Call := .sampling (.pack (.start ⟨1, 2, 3, 4⟩))
    let buffer : Bytes := List.replicate 24 0
    window 2 19 (p.run c) buffer = (.error .invalidBufferSize, buffer) ∧
      ∃ n, (window 2 20 (p.run c) buffer).1 = .ok n := by
  obtain ⟨size, reported, bounded⟩ :=
    bounded_published .gm20b empty (.sampling (.pack (.start ⟨1, 2, 3, 4⟩))) (.sampling .start) rfl
  obtain rfl : 20 = size := by
    cases reported []
    rfl
  exact ⟨bounded.refuses _ _ _ (by decide), bounded.succeeds _ _ _ (by decide)⟩

end Interface

end FalconPmu
