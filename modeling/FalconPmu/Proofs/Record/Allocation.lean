import FalconPmu.Proofs.Record.Layout
import FalconPmu.Record.Allocation

namespace FalconPmu.Allocation

open FalconPmu.Cell (plain)

def Query.given : (q : Query) → Call → Option q.Answer
  | .dmemSize, .set (.dmemSize n) => some n
  | .dmemOffset, .set (.dmemOffset n) => some n
  | .frameBuffer, .set (.frameBuffer d) => some d
  | _, _ => none

def Query.cell : Query → Cell Call
  | dmemSize => plain 0 (Query.given .dmemSize)
  | dmemOffset => plain 4 (Query.given .dmemOffset)
  | frameBuffer => plain 8 (Query.given .frameBuffer)

def Field.frameBuffer₃ : FalconPmu.Field MemDesc := ⟨8⟩

def Query.value : (q : Query) → Bytes → q.Answer
  | dmemSize => Field.dmemSize.get
  | dmemOffset => Field.dmemOffset.get
  | frameBuffer => Field.frameBuffer₃.get

def Update.apply : Update → Bytes → Bytes
  | dmemSize n => Field.dmemSize.put n
  | dmemOffset n => Field.dmemOffset.put n
  | frameBuffer d => Field.frameBuffer₃.put d

def Update.query : Update → Query
  | dmemSize _ => .dmemSize
  | dmemOffset _ => .dmemOffset
  | frameBuffer _ => .frameBuffer

def Update.span : Update → Span
  | dmemSize _ => ⟨0, 2⟩
  | dmemOffset _ => ⟨4, 4⟩
  | frameBuffer _ => ⟨8, 12⟩

theorem Query.span_cell {q : Query} {c : Call} (h : q.cell.stroke c ≠ .keep) :
    ∃ u, c = .set u ∧ q.cell.span = u.span := by
  cases c with
  | set u =>
    refine ⟨u, rfl, ?_⟩
    cases q <;> cases u <;> first | rfl | exact absurd rfl h
  | _ => cases q <;> exact absurd rfl h

namespace Revision

def layout : Revision → Layout Call
  | v1 => {
      size := 16
      cells := [Query.cell .dmemSize, Query.cell .dmemOffset]
      ordered := by decide
      fits := by decide }
  | v2 => {
      size := 20
      cells := [Query.cell .dmemSize, Query.cell .dmemOffset]
      ordered := by decide
      fits := by decide }
  | v3 => {
      size := 20
      cells := [Query.cell .dmemSize, Query.cell .dmemOffset, Query.cell .frameBuffer]
      ordered := by decide
      fits := by decide }

theorem size_layout (r : Revision) : r.layout.size = r.size := by
  cases r <;> rfl

def Exposes (r : Revision) (q : Query) : Prop := q = .frameBuffer → r = .v3

section Exposes

variable {r : Revision} {q : Query} {u : Update}

theorem Exposes.run_get (h : r.Exposes q) : r.run (.get q) = Access.read r.size q.value := by
  cases q with
  | dmemSize | dmemOffset => rfl
  | frameBuffer =>
    obtain rfl := h rfl
    rfl

theorem run_get_of_hidden (h : ¬ r.Exposes q) : r.run (.get q) = Access.fail .noFrameBuffer := by
  cases q with
  | dmemSize | dmemOffset => exact absurd nofun h
  | frameBuffer =>
    cases r with
    | v1 | v2 => rfl
    | v3 => exact absurd (fun _ => rfl) h

theorem Exposes.run_set (h : r.Exposes u.query) : r.run (.set u) = Access.write r.size u.apply := by
  cases u with
  | dmemSize n | dmemOffset n => rfl
  | frameBuffer d =>
    obtain rfl := h rfl
    rfl

theorem run_set_of_hidden (h : ¬ r.Exposes u.query) :
    r.run (.set u) = Access.fail .noFrameBuffer := by
  cases u with
  | dmemSize n | dmemOffset n => exact absurd nofun h
  | frameBuffer d =>
    cases r with
    | v1 | v2 => rfl
    | v3 => exact absurd (fun _ => rfl) h

theorem Exposes.cell_mem (h : r.Exposes q) : q.cell ∈ r.layout.cells := by
  cases q with
  | dmemSize | dmemOffset => cases r <;> simp [layout]
  | frameBuffer =>
    obtain rfl := h rfl
    simp [layout]

theorem Exposes.value_eq_last (h : r.Exposes q) {cs : List Call} {b b' : Bytes}
    (written : r.layout.Written cs b b') :
    q.value b' = (cs.filterMap q.given).getLast?.getD (q.value b) := by
  have hcell := h.cell_mem
  cases q with
  | dmemSize => exact written.get_eq_last (f := Field.dmemSize) hcell
  | dmemOffset => exact written.get_eq_last (f := Field.dmemOffset) hcell
  | frameBuffer => exact written.get_eq_last (f := Field.frameBuffer₃) hcell

theorem Exposes.apply_eq_paintAll (h : r.Exposes u.query) (b : Bytes) :
    u.apply b = Cell.paintAll r.layout.cells (.set u) b := by
  cases u with
  | dmemSize n | dmemOffset n => cases r <;> rfl
  | frameBuffer d =>
    obtain rfl := h rfl
    exact Field.frameBuffer₃.put_eq_write rfl b

theorem paintAll_of_hidden (h : ¬ r.Exposes u.query) (b : Bytes) :
    Cell.paintAll r.layout.cells (.set u) b = b := by
  cases u with
  | dmemSize n | dmemOffset n => exact absurd nofun h
  | frameBuffer d =>
    cases r with
    | v1 | v2 => rfl
    | v3 => exact absurd (fun _ => rfl) h

end Exposes

theorem state_get (r : Revision) (q : Query) (b : Bytes) : (r.run (.get q) b).2 = b := by
  by_cases h : r.Exposes q
  · rw [h.run_get]
    exact Access.state_read r.size q.value b
  · rw [run_get_of_hidden h]
    rfl

theorem run_eq_paintAll {r : Revision} (c : Call) {b : Bytes} (hb : r.size ≤ b.length) :
    (r.run c b).2 = Cell.paintAll r.layout.cells c b := by
  cases c with
  | get q =>
    rw [state_get]
    cases q <;> cases r <;> rfl
  | set u =>
    by_cases h : r.Exposes u.query
    · rw [h.run_set, Access.write_of_le hb, h.apply_eq_paintAll]
    · rw [run_set_of_hidden h, paintAll_of_hidden h]
      rfl
  | _ => cases r <;> rfl

theorem run_of_lt {r : Revision} (c : Call) {b : Bytes} (hb : b.length < r.size) :
    (r.run c b).2 = b := by
  cases c with
  | get q => exact r.state_get q b
  | set u =>
    by_cases h : r.Exposes u.query
    · rw [h.run_set, Access.write_of_lt hb]
    · rw [run_set_of_hidden h]
      rfl
  | _ => rfl

def after (r : Revision) (cs : List Call) (b : Bytes) : Bytes :=
  cs.foldl (fun b c => (r.run c b).2) b

theorem after_eq_layout {r : Revision} (cs : List Call) {b : Bytes} (hb : r.size ≤ b.length) :
    r.after cs b = r.layout.after cs b := by
  rw [← size_layout] at hb
  refine Layout.foldl_eq_after ?_ cs hb
  intro c b hb
  rw [size_layout] at hb
  exact run_eq_paintAll c hb

theorem after_of_lt {r : Revision} (cs : List Call) {b : Bytes} (hb : b.length < r.size) :
    r.after cs b = b := by
  induction cs with
  | nil => rfl
  | cons c cs ih =>
    change r.after cs (r.run c b).2 = b
    rw [run_of_lt c hb, ih]

theorem exists_cell {r : Revision} {cell : Cell Call} (h : cell ∈ r.layout.cells) :
    ∃ q : Query, cell = q.cell := by
  cases r <;> simp only [layout, List.mem_cons, List.not_mem_nil, or_false] at h
  case v1 | v2 => obtain rfl | rfl := h <;> exact ⟨_, rfl⟩
  case v3 => obtain rfl | rfl | rfl := h <;> exact ⟨_, rfl⟩

end Revision

structure Reported (r : Revision) (b : Bytes) : Prop where
  dmemOffset : ∃ n position, r.run (.get .dmemOffset) b = (.ok n, b) ∧
    r.run .dmemOffsetPosition b = (.ok position, b) ∧
    Bytes.slice b position 4 = LittleEndian.encode 4 n.toNat
  frameBuffer : r = .v3 → ∃ d offset width, r.run (.get .frameBuffer) b = (.ok d, b) ∧
    r.run .frameBufferSpan b = (.ok (offset, width), b) ∧ offset + width ≤ r.size ∧
    Bytes.slice b offset width =
      LittleEndian.encode 8 d.address.toNat ++ LittleEndian.encode 4 d.params.toNat ∧
    ∀ k, (∃ e, (r.run (.set (.frameBuffer e)) b).2[k]? ≠ b[k]?) ↔ offset ≤ k ∧ k < offset + width

structure Placed (r : Revision) (cs : List Call) (b b' : Bytes) : Prop where
  length : b'.length = b.length
  answers : ∀ q : Query, r.Exposes q → ∃ a, r.run (.get q) b = (.ok a, b) ∧
    r.run (.get q) b' = (.ok ((cs.filterMap q.given).getLast?.getD a), b')
  taken : ∀ u : Update, r.Exposes u.query → (r.run (.set u) b').1 = .ok ()
  elsewhere : ∀ k, (∀ u, .set u ∈ cs → k < u.span.offset ∨ u.span.stop ≤ k) → b'[k]? = b[k]?
  reported : Reported r b'

/-- What calls in a row leave of the frame buffer part of a record that does not expose it. -/
structure Sealed (r : Revision) (b b' : Bytes) : Prop where
  kept : ∀ k, 8 ≤ k → b'[k]? = b[k]?
  span : r.run .frameBufferSpan b' = (.error .noFrameBuffer, b')
  get : r.run (.get .frameBuffer) b' = (.error .noFrameBuffer, b')
  set : ∀ d, r.run (.set (.frameBuffer d)) b' = (.error .noFrameBuffer, b')

theorem outside_of_set {r : Revision} {cs : List Call} {k : Nat}
    (hk : ∀ u, .set u ∈ cs → k < u.span.offset ∨ u.span.stop ≤ k) :
    ∀ cell ∈ r.layout.cells, ∀ c ∈ cs, cell.stroke c ≠ .keep → cell.Outside k := by
  intro cell hcell c hc hs
  obtain ⟨q, rfl⟩ := Revision.exists_cell hcell
  obtain ⟨u, rfl, hspan⟩ := Query.span_cell hs
  rw [Cell.Outside, hspan]
  exact hk u hc

theorem changed_iff {b : Bytes} (hb : Revision.v3.size ≤ b.length) (k : Nat) :
    (∃ d, (Revision.v3.run (.set (.frameBuffer d)) b).2[k]? ≠ b[k]?) ↔ 8 ≤ k ∧ k < 8 + 12 := by
  have hset (d : MemDesc) :
      (Revision.v3.run (.set (.frameBuffer d)) b).2 = Field.frameBuffer₃.put d b :=
    congrArg Prod.snd (Access.write_of_le hb (Field.frameBuffer₃.put d))
  simp only [hset]
  constructor
  · rintro ⟨d, hd⟩
    by_contra hk
    apply hd
    apply FalconPmu.Field.getElem?_put_of_outside
    change k < 8 ∨ 8 + 12 ≤ k
    omega
  · rintro ⟨hoffset, hstop⟩
    exact Field.frameBuffer₃.exists_put_ne hb hoffset hstop

theorem reported_of_le {r : Revision} {b : Bytes} (hb : r.size ≤ b.length) : Reported r b where
  dmemOffset := by
    have hstop : Field.dmemOffset.stop ≤ b.length := Nat.le_trans (by cases r <;> decide) hb
    exact ⟨Field.dmemOffset.get b, 4, Access.read_of_le hb _, rfl,
      (FalconPmu.Field.encode_get hstop).symm⟩
  frameBuffer := by
    rintro rfl
    have hstop : Field.frameBuffer₃.stop ≤ b.length := hb
    exact ⟨Field.frameBuffer₃.get b, 8, 12, Access.read_of_le hb _, rfl, by decide,
      (FalconPmu.Field.encode_get hstop).symm, changed_iff hb⟩

theorem placed_after {r : Revision} (cs : List Call) {b : Bytes} (hb : r.size ≤ b.length) :
    Placed r cs b (r.after cs b) := by
  have written : r.layout.Written cs b (r.after cs b) := by
    rw [Revision.after_eq_layout cs hb]
    exact r.layout.written_after cs (by rw [r.size_layout]; exact hb)
  have hb' : r.size ≤ (r.after cs b).length := by
    rw [written.length]
    exact hb
  refine {
    length := written.length
    answers := ?answers
    taken := ?taken
    elsewhere := fun k hk => written.elsewhere k (outside_of_set hk)
    reported := reported_of_le hb' }
  case answers =>
    intro q hq
    refine ⟨q.value b, ?_, ?_⟩
    · rw [hq.run_get, Access.read_of_le hb]
    · rw [hq.run_get, Access.read_of_le hb', hq.value_eq_last written]
  case taken =>
    intro u hu
    rw [hu.run_set, Access.write_of_le hb']

theorem getElem?_after_of_ne {r : Revision} (hr : r ≠ .v3) (cs : List Call) (b : Bytes) {k : Nat}
    (hk : 8 ≤ k) : (r.after cs b)[k]? = b[k]? := by
  -- There is no cell for the frame buffer part, which is all that lies behind the first eight bytes.
  have hstop : ∀ cell ∈ r.layout.cells, cell.span.stop ≤ 8 := by
    cases r with
    | v1 | v2 => decide
    | v3 => exact absurd rfl hr
  cases Nat.lt_or_ge b.length r.size with
  | inl hb => rw [Revision.after_of_lt cs hb]
  | inr hb =>
    rw [Revision.after_eq_layout cs hb]
    apply Layout.getElem?_after
    intro cell hcell _ _ _
    exact .inr (Nat.le_trans (hstop cell hcell) hk)

theorem sealed_after {r : Revision} (hr : r ≠ .v3) (cs : List Call) (b : Bytes) :
    Sealed r b (r.after cs b) := by
  have hidden : ¬ r.Exposes .frameBuffer := fun h => hr (h rfl)
  refine {
    kept := fun _ hk => getElem?_after_of_ne hr cs b hk
    span := ?span
    get := congrFun (Revision.run_get_of_hidden hidden) _
    set := fun d => congrFun (Revision.run_set_of_hidden (u := .frameBuffer d) hidden) _ }
  case span =>
    cases r with
    | v1 | v2 => rfl
    | v3 => exact absurd rfl hr

/-- On a record of its size, an allocation revision keeps what each field was given last, at the place
that it reports for the field. A frame buffer part that is not exposed stays as it was on every buffer. -/
theorem placed_payload (r : Revision) (cs : List Call) (b : Bytes) :
    (r.size ≤ b.length → Placed r cs b (r.after cs b)) ∧ (r ≠ .v3 → Sealed r b (r.after cs b)) :=
  ⟨placed_after cs, fun hr => sealed_after hr cs b⟩

theorem placed_payload_described :
    let d : MemDesc := ⟨0x123456789a, 0x1000040⟩
    let cs : List Call := [.set (.dmemOffset 7), .set (.frameBuffer d), .get .dmemSize,
      .set (.dmemOffset 0xa0b0c0d0)]
    let b : Bytes := List.replicate 21 0xff
    let b₂ := Revision.v2.after cs b
    let b₃ := Revision.v3.after cs b
    Revision.v3.size ≤ b.length ∧ Revision.v3.run (.get .frameBuffer) b₃ = (.ok d, b₃) ∧
      Bytes.slice b₃ 4 4 = [0xd0, 0xc0, 0xb0, 0xa0] ∧ b₃[0]? = some 0xff ∧ b₃[20]? = some 0xff ∧
      Revision.v2 ≠ .v3 ∧ b₂[8]? = some 0xff ∧
      Revision.v2.run (.set (.frameBuffer d)) b₂ = (.error .noFrameBuffer, b₂) := by
  intro d cs b b₂ b₃
  have hb : Revision.v3.size ≤ b.length := by decide
  have hr : Revision.v2 ≠ .v3 := by decide
  have placed := (placed_payload .v3 cs b).1 hb
  have closed := (placed_payload .v2 cs b).2 hr
  refine ⟨hb, ?_, ?_, ?_, ?_, hr, closed.kept 8 (by decide), closed.set d⟩
  · obtain ⟨d₀, -, hlast⟩ := placed.answers .frameBuffer fun _ => rfl
    exact hlast
  · obtain ⟨n₀, -, hlast⟩ := placed.answers .dmemOffset nofun
    obtain ⟨n, position, hget, hposition, hslice⟩ := placed.reported.dmemOffset
    have hn : n = 0xa0b0c0d0 := Except.ok.inj (congrArg Prod.fst (hget.symm.trans hlast))
    cases hposition
    rw [hn] at hslice
    exact hslice.trans (by decide)
  · exact placed.elsewhere 0 (by simp [cs, Update.span])
  · exact placed.elsewhere 20 (by simp [cs, Update.span, Span.stop])

end FalconPmu.Allocation
