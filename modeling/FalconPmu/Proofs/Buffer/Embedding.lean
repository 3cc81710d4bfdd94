import FalconPmu.Proofs.Buffer.Records
import FalconPmu.Proofs.Buffer.Separation
import FalconPmu.Proofs.Publication

namespace FalconPmu

open Access (Local Separate Spares tail)
open Bytes (splice)

theorem Field.get_splice_of_clear {α : Type} [Wire α] {f : Field α} {b new : Bytes} {start size : Nat}
    (hnew : new.length = size) (h : f.stop ≤ start ∨ start + size ≤ f.offset) :
    f.get (splice b start new) = f.get b := by
  rw [← hnew] at h
  rw [get, Bytes.slice_splice_of_apart h, get]

namespace Sampling.Revision

variable (r : Revision)

theorem spares_start (s : Shape) : Spares s.allocationOffset r.allocationSize (r.run .start) := by
  apply Access.spares_read
  intro b new hnew
  simp only [Start.ofBytes]
  congr 1
  all_goals exact Field.get_splice_of_clear hnew (.inl (by cases s <;> decide))

theorem spares_startFlags (s : Shape) :
    Spares s.allocationOffset r.allocationSize (r.run .startFlags) := by
  apply Access.spares_read
  intro b new hnew
  exact Field.get_splice_of_clear hnew (.inl (by cases s <;> decide))

theorem spares_init : Spares Shape.init.allocationOffset r.allocationSize (r.run .init) := by
  apply Access.spares_read
  intro b new hnew
  simp only [init]
  congr 1
  all_goals exact Field.get_splice_of_clear hnew (by cases r <;> decide)

theorem spares_set (u : Update) : Spares u.shape.allocationOffset r.allocationSize (r.set u) := by
  have hwrite := congrFun (r.apply_eq_write u)
  exact Access.spares_write hwrite (r.clear_piece u)

theorem spares_pack (c : Command) : Spares c.shape.allocationOffset r.allocationSize (r.pack c) := by
  have hupdates : Spares c.shape.allocationOffset r.allocationSize (c.updates.forM r.set) := by
    apply Access.spares_forM
    intro u hu
    rw [← c.shape_of_mem_updates u hu]
    exact r.spares_set u
  exact hupdates.bind fun _ => Access.spares_pure _

end Sampling.Revision

theorem Allocation.Revision.local_run (r : Revision) (c : Call) : Local r.size (r.run c) := by
  cases c with
  | size => exact Access.local_of_fixed fun _ => rfl
  | dmemOffsetPosition => exact Access.local_of_fixed fun _ => rfl
  | frameBufferSpan => exact Access.local_of_fixed fun _ => rfl
  | get q =>
    cases q with
    | dmemSize => exact r.confined_dmemSize.serves.isLocal
    | dmemOffset => exact r.confined_dmemOffset.serves.isLocal
    | frameBuffer =>
      cases hf : r.frameBuffer with
      | ok f => exact (confined_frameBuffer hf).serves.isLocal
      | error e =>
        rw [run_frameBuffer_of_error hf]
        exact Access.local_of_fixed (Access.fail_apply e)
  | set u =>
    cases u with
    | dmemSize n => exact (r.confined_setDmemSize n).serves.isLocal
    | dmemOffset n => exact (r.confined_setDmemOffset n).serves.isLocal
    | frameBuffer d =>
      cases hf : r.frameBuffer with
      | ok f => exact (confined_setFrameBuffer hf d).serves.isLocal
      | error e =>
        rw [run_setFrameBuffer_of_error hf]
        exact Access.local_of_fixed (Access.fail_apply e)

theorem Bundle.size_allocation (f : Family) :
    (ofFamily f).allocation.size = (ofFamily f).sampling.allocationSize := by
  cases f <;> rfl

theorem Sampling.Revision.room_le_size (r : Revision) (s : Shape) :
    s.allocationOffset + r.allocationSize ≤ r.size s := by
  cases s with
  | start => exact Nat.le_refl _
  | init => exact Nat.le_add_right _ _

namespace Interface

open Sampling (Shape)

/-- The calls on a command of the given shape. The fields of a start command come before the allocation
record of either shape, those of an init command do not. -/
inductive Concerns (s : Shape) : Call → Prop
  | set {u : Sampling.Update} (shape : u.shape = s) : Concerns s (.sampling (.set u))
  | pack {c : Sampling.Command} (shape : c.shape = s) : Concerns s (.sampling (.pack c))
  | start : Concerns s (.sampling .start)
  | startFlags : Concerns s (.sampling .startFlags)
  | init (shape : s = .init) : Concerns s (.sampling .init)

theorem Concerns.spares {s : Shape} {c : Call} (h : Concerns s c) (b : Bundle) :
    Spares s.allocationOffset b.sampling.allocationSize (b.run c) := by
  cases h with
  | @set u shape =>
    subst shape
    exact b.sampling.spares_set u
  | @pack c shape =>
    subst shape
    exact b.sampling.spares_pack c
  | start => exact b.sampling.spares_start s
  | startFlags => exact b.sampling.spares_startFlags s
  | init shape =>
    subst shape
    exact b.sampling.spares_init

inductive Mixed (s : Shape) where
  | command (c : Call) (concerns : Concerns s c)
  | allocation (c : Allocation.Call)

variable {s : Shape} {i : Interface} {offset need : Nat}

namespace Mixed

def isCommand : Mixed s → Bool
  | command _ _ => true
  | allocation _ => false

def act (i : Interface) (offset : Nat) : Mixed s → Bytes → Bytes
  | command c _, b => (i.run c b).2
  | allocation c, b => (tail offset (i.run (.allocation c)) b).2

def after (i : Interface) (offset : Nat) (ms : List (Mixed s)) (b : Bytes) : Bytes :=
  ms.foldl (fun b m => m.act i offset b) b

def commands (ms : List (Mixed s)) : List (Mixed s) := ms.filter isCommand

def allocations (ms : List (Mixed s)) : List (Mixed s) := ms.filter fun m => !m.isCommand

end Mixed

/-- Calls on the command and calls on the record are separate on every buffer of the needed length. -/
structure Independent (i : Interface) (s : Shape) (offset need : Nat) : Prop where
  length : ∀ (m : Mixed s) b, need ≤ b.length → (m.act i offset b).length = b.length
  separate : ∀ c, Concerns s c → ∀ d b, need ≤ b.length →
    Separate (i.run c) (tail offset (i.run (.allocation d))) b

namespace Independent

variable (h : Independent i s offset need)

include h

theorem length_after (ms : List (Mixed s)) {b : Bytes} (hb : need ≤ b.length) :
    (Mixed.after i offset ms b).length = b.length := by
  induction ms generalizing b with
  | nil => rfl
  | cons m ms ih =>
    have hm := h.length m b hb
    change (Mixed.after i offset ms (m.act i offset b)).length = b.length
    rw [ih (by omega), hm]

theorem act_comm {m n : Mixed s} (hm : m.isCommand = true) (hn : n.isCommand = false) {b : Bytes}
    (hb : need ≤ b.length) :
    n.act i offset (m.act i offset b) = m.act i offset (n.act i offset b) := by
  cases m with
  | allocation d => cases hm
  | command c concerns =>
    cases n with
    | command c' concerns' => cases hn
    | allocation d => exact (h.separate c concerns d b hb).commute

theorem act_after_commands {n : Mixed s} (hn : n.isCommand = false) {ms : List (Mixed s)}
    (hms : ∀ m ∈ ms, m.isCommand = true) {b : Bytes} (hb : need ≤ b.length) :
    n.act i offset (Mixed.after i offset ms b) = Mixed.after i offset ms (n.act i offset b) := by
  induction ms generalizing b with
  | nil => rfl
  | cons m ms ih =>
    have hlength := h.length m b hb
    change n.act i offset (Mixed.after i offset ms (m.act i offset b)) =
      Mixed.after i offset ms (m.act i offset (n.act i offset b))
    rw [← h.act_comm (hms m List.mem_cons_self) hn hb]
    apply ih
    · intro m' hm'
      exact hms m' (List.mem_cons_of_mem m hm')
    · omega

theorem after_comm {ms ns : List (Mixed s)} (hms : ∀ m ∈ ms, m.isCommand = true)
    (hns : ∀ n ∈ ns, n.isCommand = false) {b : Bytes} (hb : need ≤ b.length) :
    Mixed.after i offset ns (Mixed.after i offset ms b) = Mixed.after i offset ms (Mixed.after i offset ns b) := by
  induction ns generalizing b with
  | nil => rfl
  | cons n ns ih =>
    have hlength := h.length n b hb
    change Mixed.after i offset ns (n.act i offset (Mixed.after i offset ms b)) =
      Mixed.after i offset ms (Mixed.after i offset ns (n.act i offset b))
    rw [h.act_after_commands (hns n List.mem_cons_self) hms hb]
    apply ih
    · intro n' hn'
      exact hns n' (List.mem_cons_of_mem n hn')
    · omega

theorem after_sorted (ms : List (Mixed s)) {b : Bytes} (hb : need ≤ b.length) :
    Mixed.after i offset ms b =
      Mixed.after i offset (Mixed.allocations ms) (Mixed.after i offset (Mixed.commands ms) b) := by
  induction ms generalizing b with
  | nil => rfl
  | cons m ms ih =>
    have hlength := h.length m b hb
    have hrest := ih (b := m.act i offset b) (by omega)
    cases m with
    | command c concerns => exact hrest
    | allocation d =>
      have hcommands : ∀ m ∈ Mixed.commands ms, m.isCommand = true :=
        fun _ hm => (List.mem_filter.1 hm).2
      rw [← h.act_after_commands rfl hcommands hb] at hrest
      exact hrest

theorem left_after {c : Call} (hc : Concerns s c) {ns : List (Mixed s)}
    (hns : ∀ n ∈ ns, n.isCommand = false) {b : Bytes} (hb : need ≤ b.length) :
    (i.run c (Mixed.after i offset ns b)).1 = (i.run c b).1 := by
  induction ns generalizing b with
  | nil => rfl
  | cons n ns ih =>
    have hlength := h.length n b hb
    change (i.run c (Mixed.after i offset ns (n.act i offset b))).1 = (i.run c b).1
    rw [ih (fun n' hn' => hns n' (List.mem_cons_of_mem n hn')) (by omega)]
    cases n with
    | command c' concerns => cases hns _ List.mem_cons_self
    | allocation d => exact (h.separate c hc d b hb).left

theorem right_after (d : Allocation.Call) {ms : List (Mixed s)}
    (hms : ∀ m ∈ ms, m.isCommand = true) {b : Bytes} (hb : need ≤ b.length) :
    (tail offset (i.run (.allocation d)) (Mixed.after i offset ms b)).1 =
      (tail offset (i.run (.allocation d)) b).1 := by
  induction ms generalizing b with
  | nil => rfl
  | cons m ms ih =>
    have hlength := h.length m b hb
    change (tail offset (i.run (.allocation d)) (Mixed.after i offset ms (m.act i offset b))).1 = _
    rw [ih (fun m' hm' => hms m' (List.mem_cons_of_mem m hm')) (by omega)]
    cases m with
    | allocation d' => cases hms _ List.mem_cons_self
    | command c concerns => exact (h.separate c concerns d b hb).right

end Independent

structure Undisturbed (i : Interface) (offset : Nat) (ms : List (Mixed s)) (b : Bytes) : Prop where
  separate : ∀ c, Concerns s c → ∀ d,
    Separate (i.run c) (tail offset (i.run (.allocation d))) (Mixed.after i offset ms b)
  sorted : Mixed.after i offset ms b =
    Mixed.after i offset (Mixed.allocations ms) (Mixed.after i offset (Mixed.commands ms) b)
  command : ∀ c, Concerns s c →
    (i.run c (Mixed.after i offset ms b)).1 =
      (i.run c (Mixed.after i offset (Mixed.commands ms) b)).1
  allocation : ∀ d,
    (tail offset (i.run (.allocation d)) (Mixed.after i offset ms b)).1 =
      (tail offset (i.run (.allocation d)) (Mixed.after i offset (Mixed.allocations ms) b)).1

theorem Independent.undisturbed (h : Independent i s offset need) (ms : List (Mixed s)) {b : Bytes}
    (hb : need ≤ b.length) : Undisturbed i offset ms b := by
  have hcommands : ∀ m ∈ Mixed.commands ms, m.isCommand = true :=
    fun _ hm => (List.mem_filter.1 hm).2
  have hallocations : ∀ m ∈ Mixed.allocations ms, m.isCommand = false := by
    intro m hm
    simpa using (List.mem_filter.1 hm).2
  have hlength := h.length_after (Mixed.commands ms) hb
  have hlength' := h.length_after (Mixed.allocations ms) hb
  constructor
  case separate =>
    intro c hc d
    apply h.separate c hc d
    rw [h.length_after ms hb]
    exact hb
  case sorted => exact h.after_sorted ms hb
  case command =>
    intro c hc
    rw [h.after_sorted ms hb]
    exact h.left_after hc hallocations (by omega)
  case allocation =>
    intro d
    rw [h.after_sorted ms hb, h.after_comm hcommands hallocations hb]
    exact h.right_after d hcommands (by omega)

theorem independent_ofFamily {f : Family} (hi : i.active = some (.ofFamily f)) (s : Shape) :
    Independent i s s.allocationOffset ((Bundle.ofFamily f).sampling.size s) where
  length := by
    intro m b hb
    have hroom := (Bundle.ofFamily f).sampling.room_le_size s
    cases m with
    | command c concerns =>
      rw [Mixed.act, run_of_some hi]
      exact (concerns.spares (Bundle.ofFamily f)).length b
    | allocation d =>
      rw [Mixed.act, run_of_some hi]
      have hrecord : s.allocationOffset + (Bundle.ofFamily f).allocation.size ≤ b.length := by
        rw [Bundle.size_allocation]
        omega
      obtain ⟨r, new, -, hwindow⟩ := ((Bundle.ofFamily f).allocation.local_run d).tail hrecord
      have hself := hwindow b rfl rfl
      simp only [Bundle.run]
      rw [hself, Bytes.length_splice]
  separate := by
    intro c hc d b hb
    have hroom := (Bundle.ofFamily f).sampling.room_le_size s
    rw [run_of_some hi, run_of_some hi]
    apply (hc.spares (Bundle.ofFamily f)).separate
    · rw [← Bundle.size_allocation]
      exact (Bundle.ofFamily f).allocation.local_run d
    · omega

/-- While a family is published, a sampling command of either shape has room for the allocation record
at the offset reported, and calls on the two may be mixed in any order. -/
theorem embedding_published (f : Family) (i : Interface) (s : Shape) (b : Bytes) :
    let p := (publish f.number i).state
    ∃ offset room size, p.run (.sampling (.allocationOffset s)) b = (.ok offset, b) ∧
      p.run (.allocation .size) b = (.ok room, b) ∧ p.run (.sampling (.size s)) b = (.ok size, b) ∧
      offset + room ≤ size ∧
      (size ≤ b.length → ∀ ms : List (Mixed s), Undisturbed p offset ms b) := by
  intro p
  have hp : p.active = some (.ofFamily f) := active_publish f i
  refine ⟨s.allocationOffset, (Bundle.ofFamily f).allocation.size,
    (Bundle.ofFamily f).sampling.size s, ?_, ?_, ?_, ?_, ?_⟩
  · rw [run_of_some hp]
    rfl
  · rw [run_of_some hp]
    rfl
  · rw [run_of_some hp]
    rfl
  · rw [Bundle.size_allocation]
    exact (Bundle.ofFamily f).sampling.room_le_size s
  · intro hb ms
    exact (independent_ofFamily hp s).undisturbed ms hb

theorem embedding_published_tight :
    let p := (publish Family.gp10x.number empty).state
    let ms : List (Mixed .init) := [
      .command (.sampling (.pack (.init ⟨0, 15, 7, 16667, 5, 17, 48879⟩))) (.pack rfl),
      .allocation (.set (.frameBuffer ⟨65536, 16777248⟩)),
      .command (.sampling (.set (.initCounterCount 2))) (.set rfl),
      .allocation (.set (.dmemSize 8))]
    let b : Bytes := List.replicate 32 0
    32 ≤ b.length ∧
      (p.run (.sampling .init) (Mixed.after p 8 ms b)).1 = .ok ⟨0, 15, 7, 16667, 2, 17, 48879⟩ ∧
      (tail 8 (p.run (.allocation (.get .frameBuffer))) (Mixed.after p 8 ms b)).1 =
        .ok ⟨65536, 16777248⟩ := by
  intro p ms b
  obtain ⟨offset, room, size, hoffset, -, hsize, -, mixed⟩ :=
    embedding_published .gp10x empty .init b
  obtain rfl : 8 = offset := by
    cases hoffset
    rfl
  obtain rfl : 32 = size := by
    cases hsize
    rfl
  have undisturbed := mixed (by decide) ms
  refine ⟨by decide, ?_, ?_⟩
  · refine (undisturbed.command _ (.init rfl)).trans ?_
    decide +kernel
  · refine (undisturbed.allocation (.get .frameBuffer)).trans ?_
    decide +kernel

end Interface

end FalconPmu
