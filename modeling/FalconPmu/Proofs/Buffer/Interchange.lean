import FalconPmu.Proofs.Buffer.Records
import FalconPmu.Proofs.Record.Word

namespace FalconPmu

namespace Access

section Ready

variable {α : Type}

structure Ready (room : Nat) (x : Access α) : Prop where
  length : ∀ b, (x b).2.length = b.length
  succeeds : ∀ b, room ≤ b.length → ∃ a, (x b).1 = .ok a

theorem ready_pure (room : Nat) (a : α) : Ready room (pure a : Access α) where
  length := fun _ => rfl
  succeeds := fun _ _ => ⟨a, rfl⟩

theorem Confined.ready {size room : Nat} {x : Access α} (h : Confined size x) (hroom : size ≤ room) :
    Ready room x := by
  have served (b : Bytes) (hb : size ≤ b.length) :
      ∃ a new, new.length = size ∧ x b = (.ok a, new ++ b.drop size) := by
    have hhead : (b.take size).length = size := by
      rw [List.length_take]
      omega
    obtain ⟨a, new, hnew, hx⟩ := h.serves (b.take size) hhead
    have hrest := hx (b.drop size)
    rw [List.take_append_drop] at hrest
    exact ⟨a, new, hnew, hrest⟩
  constructor
  case length =>
    intro b
    cases Nat.lt_or_ge b.length size with
    | inl hb => rw [h.refuses b hb]
    | inr hb =>
      obtain ⟨a, new, hnew, hx⟩ := served b hb
      rw [hx, List.length_append, List.length_drop]
      omega
  case succeeds =>
    intro b hb
    obtain ⟨a, new, -, hx⟩ := served b (by omega)
    exact ⟨a, congrArg Prod.fst hx⟩

end Ready

section Dialogue

variable {κ ι : Type} {α : ι → Type}

def dialogue (run : κ → (i : ι) → Access (α i)) :
    List (κ × ι) → Bytes → List (Σ i, Except Fault (α i)) × Bytes
  | [], b => ([], b)
  | (k, i) :: ps, b =>
    let (answer, b) := run k i b
    let (answers, b) := dialogue run ps b
    (⟨i, answer⟩ :: answers, b)

def Among (parties : List κ) (calls : ι → Prop) (ps : List (κ × ι)) : Prop :=
  ∀ p ∈ ps, p.1 ∈ parties ∧ calls p.2

/-- On buffers of `need` bytes and more it makes no difference which of the parties takes which of the
calls, and on those of `room` bytes and more none of the calls fails. -/
structure Interchangeable (run : κ → (i : ι) → Access (α i)) (parties : List κ) (calls : ι → Prop)
    (need room : Nat) : Prop where
  same : ∀ ps qs : List (κ × ι), Among parties calls ps → Among parties calls qs →
    ps.map Prod.snd = qs.map Prod.snd → ∀ b, need ≤ b.length →
    dialogue run ps b = dialogue run qs b
  answered : ∀ ps : List (κ × ι), Among parties calls ps → ∀ b, room ≤ b.length →
    ∀ answer ∈ (dialogue run ps b).1, ∃ a, answer.2 = .ok a

theorem dialogue_cons (run : κ → (i : ι) → Access (α i)) (k : κ) (i : ι) (ps : List (κ × ι))
    (b : Bytes) :
    dialogue run ((k, i) :: ps) b =
      (⟨i, (run k i b).1⟩ :: (dialogue run ps (run k i b).2).1, (dialogue run ps (run k i b).2).2) :=
  rfl

theorem among_cons {parties : List κ} {calls : ι → Prop} {p : κ × ι} {ps : List (κ × ι)} :
    Among parties calls (p :: ps) ↔ (p.1 ∈ parties ∧ calls p.2) ∧ Among parties calls ps :=
  List.forall_mem_cons

structure Alike (run : κ → (i : ι) → Access (α i)) (model : κ) (parties : List κ)
    (calls : ι → Prop) (need room : Nat) : Prop where
  same : ∀ k ∈ parties, ∀ i, calls i → ∀ b, need ≤ b.length → run k i b = run model i b
  ready : ∀ k ∈ parties, ∀ i, calls i → Ready room (run k i)

theorem alike_pair {run : κ → (i : ι) → Access (α i)} {k model : κ} {calls : ι → Prop}
    {need room : Nat} (same : ∀ i, calls i → ∀ b, need ≤ b.length → run k i b = run model i b)
    (ready : ∀ i, calls i → Ready room (run k i) ∧ Ready room (run model i)) :
    Alike run model [k, model] calls need room where
  same := by
    simp only [List.forall_mem_cons, List.not_mem_nil, false_implies, implies_true, and_true]
    exact same
  ready := by
    simp only [List.forall_mem_cons, List.not_mem_nil, false_implies, implies_true, and_true]
    exact ⟨fun i hi => (ready i hi).1, fun i hi => (ready i hi).2⟩

section Alike

variable {run : κ → (i : ι) → Access (α i)} {model : κ} {parties : List κ} {calls : ι → Prop}
  {need room : Nat} (h : Alike run model parties calls need room)

include h

theorem Alike.dialogue_eq {ps qs : List (κ × ι)} (hps : Among parties calls ps)
    (hqs : Among parties calls qs) (hcalls : ps.map Prod.snd = qs.map Prod.snd) {b : Bytes}
    (hb : need ≤ b.length) : dialogue run ps b = dialogue run qs b := by
  induction ps generalizing qs b with
  | nil => rw [List.map_eq_nil_iff.1 hcalls.symm]
  | cons p ps ih =>
    cases qs with
    | nil => cases hcalls
    | cons q qs =>
      obtain ⟨k, i⟩ := p
      obtain ⟨k', j⟩ := q
      obtain ⟨⟨hk, hi⟩, hrest⟩ := among_cons.1 hps
      obtain ⟨⟨hk', -⟩, hrest'⟩ := among_cons.1 hqs
      obtain ⟨rfl, hlater⟩ := List.cons.inj hcalls
      have hsame := (h.same k hk i hi b hb).trans (h.same k' hk' i hi b hb).symm
      have hlength := (h.ready k' hk' i hi).length b
      rw [dialogue_cons, dialogue_cons, hsame]
      rw [ih hrest hrest' hlater (by omega)]

theorem Alike.answered {ps : List (κ × ι)} (hps : Among parties calls ps) {b : Bytes}
    (hb : room ≤ b.length) : ∀ answer ∈ (dialogue run ps b).1, ∃ a, answer.2 = .ok a := by
  induction ps generalizing b with
  | nil =>
    intro answer hanswer
    cases hanswer
  | cons p ps ih =>
    obtain ⟨k, i⟩ := p
    obtain ⟨⟨hk, hi⟩, hrest⟩ := among_cons.1 hps
    have ready := h.ready k hk i hi
    have hlength := ready.length b
    rw [dialogue_cons, List.forall_mem_cons]
    exact ⟨ready.succeeds b hb, ih hrest (by omega)⟩

theorem Alike.interchangeable : Interchangeable run parties calls need room where
  same := fun _ _ hps hqs hcalls _ hb => h.dialogue_eq hps hqs hcalls hb
  answered := fun _ hps _ hb => h.answered hps hb

end Alike

end Dialogue

end Access

open Access (Alike Interchangeable Ready dialogue)

namespace BootArgs

def Call.Common (c : Call) : Prop := c ≠ .size ∧ ∀ s, c ≠ .set (.superSurface s)

theorem Revision.run_common {c : Call} (hc : c.Common) {b : Bytes} (hb : 60 ≤ b.length) :
    v5.run c b = v6.run c b := by
  have hshort : v5.size ≤ b.length := Nat.le_trans (by decide) hb
  have hlong : v6.size ≤ b.length := hb
  cases c with
  | size => exact absurd rfl hc.1
  | get q =>
    refine (Access.read_of_le hshort _).trans (.trans ?_ (Access.read_of_le hlong _).symm)
    cases q <;> rfl
  | set u =>
    have heffect : u.effect .v5 = u.effect .v6 := by
      cases u with
      | superSurface s => exact absurd rfl (hc.2 s)
      | _ => rfl
    simp only [run, heffect]
    cases u.effect .v6 with
    | some change => exact (Access.write_of_le hshort _).trans (Access.write_of_le hlong _).symm
    | none => rfl

theorem Revision.run_superSurface_ne (s : Surface) :
    v5.run (.set (.superSurface s)) (List.replicate 60 0) ≠
      v6.run (.set (.superSurface s)) (List.replicate 60 0) := by
  intro h
  -- The index of a surface is never zero, so a zeroed block shows whether one was described.
  have hbytes : List.replicate 60 0 = Field.superSurface.put (.ofSurface s) (List.replicate 60 0) :=
    congrArg Prod.snd h
  have hget : (⟨0, 0⟩ : MemDesc) = .ofSurface s := by
    have hput := FalconPmu.Field.get_put (f := Field.superSurface) (b := List.replicate 60 0)
      (by decide) (.ofSurface s)
    rw [← hbytes] at hput
    exact Eq.trans (by decide +kernel) hput
  have hparams := congrArg (fun d => d.params.toNat) hget
  rw [MemDesc.ofSurface, MemDesc.toNat_params_pack] at hparams
  have hindex : MemDesc.surfaceIndex.toNat = 1 := rfl
  simp only [UInt32.toNat_zero] at hparams
  omega

theorem Revision.common_iff (c : Call) :
    c.Common ↔ ∀ b, 60 ≤ b.length → v5.run c b = v6.run c b := by
  constructor
  · intro hc b hb
    exact run_common hc hb
  · intro h
    refine ⟨?_, ?_⟩
    · rintro rfl
      cases congrArg Prod.fst (h (List.replicate 60 0) (by decide))
    · rintro s rfl
      exact run_superSurface_ne s (h _ (by decide))

theorem Revision.ready_common {r : Revision} (hr : r.size ≤ 60) {c : Call} (hc : c.Common) :
    Ready 60 (r.run c) := by
  cases c with
  | size => exact absurd rfl hc.1
  | get q => exact (r.confined_get q).ready hr
  | set u =>
    cases hu : u.effect r with
    | some change => exact (confined_set hu).ready hr
    | none =>
      rw [run_set_of_no_effect hu]
      exact Access.ready_pure 60 ()

theorem alike_common : Alike Revision.run .v6 [.v5, .v6] Call.Common 60 60 :=
  Access.alike_pair (fun _ hc _ hb => Revision.run_common hc hb) fun _ hc =>
    ⟨Revision.ready_common (by decide) hc, Revision.ready_common (by decide) hc⟩

end BootArgs

namespace Allocation

inductive Call.Local : Call → Prop
  | position : Local .dmemOffsetPosition
  | size : Local (.get .dmemSize)
  | offset : Local (.get .dmemOffset)
  | setSize (n : UInt16) : Local (.set (.dmemSize n))
  | setOffset (n : UInt32) : Local (.set (.dmemOffset n))

theorem Revision.ready_local (r : Revision) {c : Call} (hc : c.Local) : Ready 20 (r.run c) := by
  have hsize : r.size ≤ 20 := by
    cases r <;> decide
  cases hc with
  | position => exact Access.ready_pure 20 _
  | size => exact r.confined_dmemSize.ready hsize
  | offset => exact r.confined_dmemOffset.ready hsize
  | setSize n => exact (r.confined_setDmemSize n).ready hsize
  | setOffset n => exact (r.confined_setDmemOffset n).ready hsize

theorem Revision.run_local (r : Revision) {c : Call} (hc : c.Local) {b : Bytes} (hb : 20 ≤ b.length) :
    r.run c b = v3.run c b := by
  have hshort : r.size ≤ b.length := by
    cases r <;> exact Nat.le_trans (by decide) hb
  have hlong : v3.size ≤ b.length := hb
  cases hc with
  | position => rfl
  | size => exact (Access.read_of_le hshort _).trans (Access.read_of_le hlong _).symm
  | offset => exact (Access.read_of_le hshort _).trans (Access.read_of_le hlong _).symm
  | setSize n => exact (Access.write_of_le hshort _).trans (Access.write_of_le hlong _).symm
  | setOffset n => exact (Access.write_of_le hshort _).trans (Access.write_of_le hlong _).symm

theorem alike_local : Alike Revision.run .v3 [.v1, .v2, .v3] Call.Local 20 20 where
  same := fun r _ _ hc _ hb => r.run_local hc hb
  ready := fun r _ _ hc => r.ready_local hc

theorem alike_local_of_size : Alike Revision.run .v3 [.v2, .v3] Call.Local 0 20 := by
  apply Access.alike_pair
  case same =>
    intro c hc b _
    cases hc <;> rfl
  case ready => exact fun c hc => ⟨Revision.v2.ready_local hc, Revision.v3.ready_local hc⟩

end Allocation

namespace Sampling

theorem Revision.run_eq_run (c : Call) : v2.run c = v3.run c := by
  have hset (u : Update) : v2.set u = v3.set u := by
    cases u <;> rfl
  cases c with
  | set u => exact hset u
  | pack c =>
    have hsets : v2.set = v3.set := funext hset
    simp only [run, pack, hsets]
    rfl
  | _ => rfl

theorem Revision.size_le (r : Revision) (s : Shape) : r.size s ≤ 32 := by
  cases r <;> cases s <;> decide

theorem Revision.ready_run (r : Revision) (c : Call) : Ready 32 (r.run c) := by
  cases c with
  | size s => exact Access.ready_pure 32 _
  | allocationOffset s => exact Access.ready_pure 32 _
  | start => exact r.confined_start.ready (r.size_le _)
  | startFlags => exact r.confined_startFlags.ready (r.size_le _)
  | init => exact r.confined_init.ready (r.size_le _)
  | set u => exact (r.confined_set u).ready (r.size_le _)
  | pack c => exact (r.confined_pack c).ready (r.size_le _)

theorem alike_run : Alike Revision.run .v3 [.v2, .v3] (fun _ => True) 0 32 := by
  apply Access.alike_pair
  case same =>
    intro c _ b _
    rw [Revision.run_eq_run]
  case ready => exact fun c _ => ⟨Revision.v2.ready_run c, Revision.v3.ready_run c⟩

end Sampling

namespace PowerGating

inductive Call.Heading : Call → Prop
  | size : Heading .size
  | header : Heading (.get .header)
  | commandType (n : UInt8) : Heading (.set (.commandType n))
  | engineId (n : UInt8) : Heading (.set (.engineId n))
  | bufferIndex (n : UInt8) : Heading (.set (.bufferIndex n))
  | pad (n : UInt8) : Heading (.set (.pad n))

inductive Call.Addressing : Call → Prop
  | heading {c : Call} (h : c.Heading) : Addressing c
  | address : Addressing (.get .dmaAddress)
  | setAddress (a : UInt64) : Addressing (.set (.dmaAddress a))

theorem Revision.ready_run (r : Revision) (c : Call) : Ready 16 (r.run c) := by
  have hsize : r.size ≤ 16 := by
    cases r <;> decide
  cases c with
  | size => exact Access.ready_pure 16 _
  | get q => exact (r.confined_get q).ready hsize
  | set u => exact (r.confined_set u).ready hsize

theorem Revision.run_heading (r : Revision) {c : Call} (hc : c.Heading) : r.run c = v2.run c := by
  cases hc <;> cases r <;> rfl

theorem alike_heading : Alike Revision.run .v2 [.v0, .v1, .v2] Call.Heading 0 16 where
  same := by
    intro r _ c hc b _
    rw [r.run_heading hc]
  ready := fun r _ c _ => r.ready_run c

theorem alike_addressing : Alike Revision.run .v2 [.v1, .v2] Call.Addressing 0 16 := by
  apply Access.alike_pair
  case same =>
    intro c hc b _
    cases hc with
    | heading h => rw [Revision.v1.run_heading h]
    | address => rfl
    | setAddress a => rfl
  case ready => exact fun c _ => ⟨Revision.v1.ready_run c, Revision.v2.ready_run c⟩

end PowerGating

theorem interchangeable_revisions :
    Interchangeable BootArgs.Revision.run [.v5, .v6] BootArgs.Call.Common 60 60 ∧
    (∀ c : BootArgs.Call, c.Common ↔
      ∀ b, 60 ≤ b.length → BootArgs.Revision.v5.run c b = BootArgs.Revision.v6.run c b) ∧
    Interchangeable Sampling.Revision.run [.v2, .v3] (fun _ => True) 0 32 ∧
    Interchangeable Allocation.Revision.run [.v2, .v3] Allocation.Call.Local 0 20 ∧
    Interchangeable Allocation.Revision.run [.v1, .v2, .v3] Allocation.Call.Local 20 20 ∧
    Interchangeable PowerGating.Revision.run [.v0, .v1, .v2] PowerGating.Call.Heading 0 16 ∧
    Interchangeable PowerGating.Revision.run [.v1, .v2] PowerGating.Call.Addressing 0 16 :=
  ⟨BootArgs.alike_common.interchangeable, BootArgs.Revision.common_iff,
    Sampling.alike_run.interchangeable, Allocation.alike_local_of_size.interchangeable,
    Allocation.alike_local.interchangeable, PowerGating.alike_heading.interchangeable,
    PowerGating.alike_addressing.interchangeable⟩

theorem interchangeable_revisions_mixed :
    let run := BootArgs.Revision.run
    let ps : List (BootArgs.Revision × BootArgs.Call) := [
      (.v5, .set (.traceBase ⟨0x123456789a, 0x5000030⟩)), (.v6, .get .traceSize),
      (.v6, .set (.traceIndex 9)), (.v5, .get .traceIndex), (.v6, .set (.secureMode 2))]
    let b : Bytes := List.replicate 60 0xff
    dialogue run ps b = dialogue run (ps.map fun p => (.v6, p.2)) b ∧
      dialogue run [(.v5, .get .secureMode)] (b.take 59) ≠
        dialogue run [(.v6, .get .secureMode)] (b.take 59) := by
  intro run ps b
  refine ⟨?_, ?_⟩
  · apply interchangeable_revisions.1.same
    · simp [ps, Access.Among, BootArgs.Call.Common]
    · simp [ps, Access.Among, BootArgs.Call.Common]
    · rfl
    · decide
  · intro h
    cases congrArg Prod.fst h

end FalconPmu
