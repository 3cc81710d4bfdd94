import FalconPmu.Bytes.Access
import FalconPmu.Proofs.Record.Word
import Mathlib.Data.List.DropRight
import Mathlib.Data.List.Perm.Basic

namespace FalconPmu

/-- What an update does to a word: it leaves it, replaces it, or sets bits of it. -/
inductive Stroke where
  | keep
  | replace (n : Nat)
  | merge (n : Nat)
  deriving DecidableEq

namespace Stroke

def apply : Stroke → Nat → Nat
  | keep, n => n
  | replace m, _ => m
  | merge m, n => n ||| m

def replaced? : Stroke → Option Nat
  | replace n => some n
  | keep | merge _ => none

def merged? : Stroke → Option Nat
  | merge n => some n
  | keep | replace _ => none

def Fits (width : Nat) : Stroke → Prop
  | keep => True
  | replace n | merge n => n < LittleEndian.count width

def latest (ss : List Stroke) (n : Nat) : Nat := (ss.filterMap replaced?).getLast?.getD n

def since (ss : List Stroke) : List Nat :=
  (ss.rtakeWhile fun s => s.replaced?.isNone).filterMap merged?

def union (ms : List Nat) : Nat := ms.foldr (· ||| ·) 0

theorem union_concat (ms : List Nat) (m : Nat) : union (ms ++ [m]) = union ms ||| m := by
  induction ms with
  | nil => simp [union]
  | cons k ms ih =>
    simp only [union, List.cons_append, List.foldr_cons] at ih ⊢
    rw [ih, Nat.or_assoc]

theorem union_perm {ms ns : List Nat} (h : ms.Perm ns) : union ms = union ns := h.foldr_op_eq

theorem latest_concat (ss : List Stroke) (s : Stroke) (n : Nat) :
    latest (ss ++ [s]) n = s.replaced?.getD (latest ss n) := by
  cases s <;> simp [latest, replaced?]

theorem since_concat (ss : List Stroke) (s : Stroke) :
    since (ss ++ [s]) = if s.replaced?.isNone then since ss ++ s.merged?.toList else [] := by
  cases s <;> simp [since, replaced?, merged?]

theorem foldl_apply (ss : List Stroke) (n : Nat) :
    ss.foldl (fun n s => s.apply n) n = latest ss n ||| union (since ss) := by
  induction ss using List.reverseRecOn with
  | nil => simp [latest, since, union]
  | append_singleton ss s ih =>
    rw [List.foldl_concat, ih, latest_concat, since_concat]
    cases s with
    | keep => simp [apply, replaced?, merged?]
    | replace m => simp [apply, replaced?, union]
    | merge m => simp [apply, replaced?, merged?, union_concat, Nat.or_assoc]

theorem since_eq_nil {ss : List Stroke} (h : ∀ s ∈ ss, s.merged? = none) : since ss = [] := by
  rw [since, List.filterMap_eq_nil_iff]
  intro s hs
  exact h s ((List.rtakeWhile_suffix _ _).subset hs)

theorem Fits.apply_lt {width n : Nat} {s : Stroke} (h : s.Fits width)
    (hn : n < LittleEndian.count width) : s.apply n < LittleEndian.count width := by
  cases s with
  | keep => exact hn
  | replace m => exact h
  | merge m => exact LittleEndian.or_lt_count hn h

end Stroke

structure Cell (ι : Type) where
  span : Span
  stroke : ι → Stroke
  bounded : ∀ i, (stroke i).Fits span.width

namespace Cell

variable {ι : Type}

def plain {α : Type} [Wire α] [Numeral α] (offset : Nat) (written : ι → Option α) : Cell ι where
  span := ⟨offset, Wire.width α⟩
  stroke i :=
    match written i with
    | some a => .replace (Numeral.toNat a)
    | none => .keep
  bounded i := by
    cases written i with
    | some a => exact Numeral.toNat_lt a
    | none => trivial

theorem replaced_plain {α : Type} [Wire α] [Numeral α] (offset : Nat) (written : ι → Option α) (i : ι) :
    ((plain offset written).stroke i).replaced? = (written i).map Numeral.toNat := by
  simp only [plain]
  cases written i <;> rfl

theorem latest_plain {α : Type} [Wire α] [Numeral α] (offset : Nat) (written : ι → Option α)
    (is : List ι) (a : α) :
    Stroke.latest (is.map (plain offset written).stroke) (Numeral.toNat a) =
      Numeral.toNat ((is.filterMap written).getLast?.getD a) := by
  have hwritten : Stroke.replaced? ∘ (plain offset written).stroke =
      fun i => (written i).map Numeral.toNat :=
    funext (replaced_plain offset written)
  rw [Stroke.latest, List.filterMap_map, hwritten, ← List.map_filterMap, List.getLast?_map,
    Option.getD_map]

theorem merged_plain {α : Type} [Wire α] [Numeral α] (offset : Nat) (written : ι → Option α) (i : ι) :
    ((plain offset written).stroke i).merged? = none := by
  simp only [plain]
  cases written i <;> rfl

def paint (c : Cell ι) (i : ι) (b : Bytes) : Bytes :=
  match c.stroke i with
  | .keep => b
  | .replace n => c.span.write n b
  | .merge n => c.span.write (c.span.read b ||| n) b

def Outside (c : Cell ι) (k : Nat) : Prop := k < c.span.offset ∨ c.span.stop ≤ k

instance (c : Cell ι) (k : Nat) : Decidable (c.Outside k) := inferInstanceAs (Decidable (_ ∨ _))

@[simp] theorem length_paint (c : Cell ι) (i : ι) (b : Bytes) : (c.paint i b).length = b.length := by
  rw [paint]
  split <;> simp

theorem read_paint (c : Cell ι) (i : ι) {b : Bytes} (h : c.span.stop ≤ b.length) :
    c.span.read (c.paint i b) = (c.stroke i).apply (c.span.read b) := by
  have hfits := (c.bounded i).apply_lt (c.span.read_lt b)
  rw [paint]
  cases hs : c.stroke i with
  | keep => rfl
  | replace n =>
    rw [hs] at hfits
    exact Span.read_write h hfits
  | merge n =>
    rw [hs] at hfits
    exact Span.read_write h hfits

theorem read_paint_of_apart {c d : Cell ι}
    (h : c.span.stop ≤ d.span.offset ∨ d.span.stop ≤ c.span.offset) (i : ι) (b : Bytes) :
    c.span.read (d.paint i b) = c.span.read b := by
  rw [paint]
  split
  · rfl
  · exact Span.read_write_of_apart h _ b
  · exact Span.read_write_of_apart h _ b

theorem getElem?_paint {c : Cell ι} {i : ι} {k : Nat} (h : c.stroke i ≠ .keep → c.Outside k)
    (b : Bytes) : (c.paint i b)[k]? = b[k]? := by
  rw [paint]
  cases hs : c.stroke i with
  | keep => rfl
  | replace n => exact Span.getElem?_write_of_outside (h (by simp [hs])) n b
  | merge n => exact Span.getElem?_write_of_outside (h (by simp [hs])) _ b

def paintAll (cs : List (Cell ι)) (i : ι) (b : Bytes) : Bytes := cs.foldl (fun b c => c.paint i b) b

@[simp] theorem length_paintAll (cs : List (Cell ι)) (i : ι) (b : Bytes) :
    (paintAll cs i b).length = b.length := by
  induction cs generalizing b with
  | nil => rfl
  | cons c cs ih => exact (ih (c.paint i b)).trans (c.length_paint i b)

theorem read_paintAll_of_before {c : Cell ι} {cs : List (Cell ι)}
    (h : ∀ d ∈ cs, c.span.stop ≤ d.span.offset) (i : ι) (b : Bytes) :
    c.span.read (paintAll cs i b) = c.span.read b := by
  induction cs generalizing b with
  | nil => rfl
  | cons d cs ih =>
    have hrest := ih (fun e he => h e (List.mem_cons_of_mem d he)) (d.paint i b)
    exact hrest.trans (read_paint_of_apart (.inl (h d List.mem_cons_self)) i b)

theorem read_paintAll {c : Cell ι} {cs : List (Cell ι)}
    (ordered : cs.Pairwise fun c d => c.span.stop ≤ d.span.offset) (hc : c ∈ cs) (i : ι) {b : Bytes}
    (hb : c.span.stop ≤ b.length) :
    c.span.read (paintAll cs i b) = (c.stroke i).apply (c.span.read b) := by
  induction cs generalizing b with
  | nil => cases hc
  | cons d cs ih =>
    obtain ⟨hd, hcs⟩ := List.pairwise_cons.1 ordered
    change c.span.read (paintAll cs i (d.paint i b)) = _
    cases List.mem_cons.1 hc with
    | inl heq =>
      rw [heq, read_paintAll_of_before hd]
      rw [heq] at hb
      exact d.read_paint i hb
    | inr hmem =>
      rw [ih hcs hmem (by rw [length_paint]; exact hb), read_paint_of_apart (.inr (hd c hmem))]

theorem getElem?_paintAll {cs : List (Cell ι)} {i : ι} {k : Nat}
    (h : ∀ c ∈ cs, c.stroke i ≠ .keep → c.Outside k) (b : Bytes) : (paintAll cs i b)[k]? = b[k]? := by
  induction cs generalizing b with
  | nil => rfl
  | cons c cs ih =>
    have hrest := ih (fun d hd => h d (List.mem_cons_of_mem c hd)) (c.paint i b)
    exact hrest.trans (getElem?_paint (h c List.mem_cons_self) b)

end Cell

structure Layout (ι : Type) where
  size : Nat
  cells : List (Cell ι)
  ordered : cells.Pairwise fun c d => c.span.stop ≤ d.span.offset
  fits : ∀ c ∈ cells, c.span.stop ≤ size

namespace Layout

open Stroke (latest since union)

variable {ι : Type}

def after (l : Layout ι) (is : List ι) (b : Bytes) : Bytes :=
  is.foldl (fun b i => Cell.paintAll l.cells i b) b

/-- What a record shows of a run of updates. -/
structure Written (l : Layout ι) (is : List ι) (b b' : Bytes) : Prop where
  length : b'.length = b.length
  cells : ∀ c ∈ l.cells, ∀ ms, ms.Perm (since (is.map c.stroke)) →
    c.span.read b' = latest (is.map c.stroke) (c.span.read b) ||| union ms
  elsewhere : ∀ k, (∀ c ∈ l.cells, ∀ i ∈ is, c.stroke i ≠ .keep → c.Outside k) → b'[k]? = b[k]?

theorem length_after (l : Layout ι) (is : List ι) (b : Bytes) : (l.after is b).length = b.length := by
  induction is generalizing b with
  | nil => rfl
  | cons i is ih => exact (ih _).trans (Cell.length_paintAll l.cells i b)

theorem foldl_eq_after {l : Layout ι} {step : ι → Bytes → Bytes}
    (h : ∀ i b, l.size ≤ b.length → step i b = Cell.paintAll l.cells i b) (is : List ι) {b : Bytes}
    (hb : l.size ≤ b.length) : is.foldl (fun b i => step i b) b = l.after is b := by
  induction is generalizing b with
  | nil => rfl
  | cons i is ih =>
    have hrest := ih (b := Cell.paintAll l.cells i b) (by rw [Cell.length_paintAll]; exact hb)
    change is.foldl _ (step i b) = _
    rw [h i b hb]
    exact hrest

theorem read_after {l : Layout ι} {c : Cell ι} (hc : c ∈ l.cells) (is : List ι) {b : Bytes}
    (hb : l.size ≤ b.length) :
    c.span.read (l.after is b) = (is.map c.stroke).foldl (fun n s => s.apply n) (c.span.read b) := by
  induction is generalizing b with
  | nil => rfl
  | cons i is ih =>
    have hstop := l.fits c hc
    change c.span.read (l.after is (Cell.paintAll l.cells i b)) = _
    rw [ih (by rw [Cell.length_paintAll]; exact hb), Cell.read_paintAll l.ordered hc i (by omega)]
    rfl

theorem getElem?_after {l : Layout ι} {is : List ι} {k : Nat}
    (h : ∀ c ∈ l.cells, ∀ i ∈ is, c.stroke i ≠ .keep → c.Outside k) (b : Bytes) :
    (l.after is b)[k]? = b[k]? := by
  induction is generalizing b with
  | nil => rfl
  | cons i is ih =>
    have hrest := ih (fun c hc j hj => h c hc j (List.mem_cons_of_mem i hj))
      (Cell.paintAll l.cells i b)
    exact hrest.trans (Cell.getElem?_paintAll (fun c hc => h c hc i List.mem_cons_self) b)

theorem ext_cells {l : Layout ι} {b b' : Bytes} (length : b.length = b'.length)
    (cells : ∀ c ∈ l.cells, c.span.read b = c.span.read b')
    (elsewhere : ∀ k, (∀ c ∈ l.cells, c.Outside k) → b[k]? = b'[k]?) : b = b' := by
  apply List.ext_getElem?
  intro k
  by_cases hk : ∀ c ∈ l.cells, c.Outside k
  · exact elsewhere k hk
  · simp only [not_forall, Cell.Outside] at hk
    obtain ⟨c, hc, hinside⟩ := hk
    exact Span.getElem?_eq_of_read_eq length (cells c hc) (by omega) (by omega)

theorem after_eq_iff {l : Layout ι} {is js : List ι} {b : Bytes} (hb : l.size ≤ b.length) :
    l.after is b = l.after js b ↔ ∀ c ∈ l.cells,
      (is.map c.stroke).foldl (fun n s => s.apply n) (c.span.read b) =
        (js.map c.stroke).foldl (fun n s => s.apply n) (c.span.read b) := by
  constructor
  · intro h c hc
    rw [← read_after hc is hb, h, read_after hc js hb]
  · intro h
    apply l.ext_cells
    · rw [length_after, length_after]
    · intro c hc
      rw [read_after hc is hb, read_after hc js hb]
      exact h c hc
    · intro k hk
      rw [getElem?_after fun c hc _ _ _ => hk c hc, getElem?_after fun c hc _ _ _ => hk c hc]

theorem written_after (l : Layout ι) (is : List ι) {b : Bytes} (hb : l.size ≤ b.length) :
    l.Written is b (l.after is b) where
  length := l.length_after is b
  cells := by
    intro c hc ms hms
    rw [read_after hc is hb, Stroke.foldl_apply, Stroke.union_perm hms]
  elsewhere := fun _ h => getElem?_after h b

theorem Written.read_eq_latest {l : Layout ι} {is : List ι} {b b' : Bytes} (h : l.Written is b b')
    {c : Cell ι} (hc : c ∈ l.cells) (hs : ∀ i, (c.stroke i).merged? = none) :
    c.span.read b' = latest (is.map c.stroke) (c.span.read b) := by
  have hsince : since (is.map c.stroke) = [] := by
    apply Stroke.since_eq_nil
    intro s hmem
    obtain ⟨i, -, rfl⟩ := List.mem_map.1 hmem
    exact hs i
  rw [h.cells c hc [] (by rw [hsince])]
  exact Nat.or_zero _

theorem Written.get_eq_last {l : Layout ι} {is : List ι} {b b' : Bytes} (h : l.Written is b b')
    {α : Type} [Wire α] [Numeral α] {f : Field α} {written : ι → Option α}
    (hc : Cell.plain f.offset written ∈ l.cells) :
    f.get b' = (is.filterMap written).getLast?.getD (f.get b) := by
  apply Numeral.toNat_injective
  rw [f.toNat_get, ← Cell.latest_plain f.offset, f.toNat_get]
  exact h.read_eq_latest hc (Cell.merged_plain _ _)

theorem Written.get_eq {l : Layout ι} {is : List ι} {b b' : Bytes} (h : l.Written is b b')
    {α : Type} [Wire α] [Numeral α] {f : Field α}
    (hc : Cell.plain f.offset (fun _ : ι => (none : Option α)) ∈ l.cells) : f.get b' = f.get b := by
  rw [h.get_eq_last hc]
  simp

def Governs (l : Layout ι) (x : ι → Access Unit) : Prop :=
  ∀ i b, l.size ≤ b.length → x i b = (.ok (), Cell.paintAll l.cells i b)

theorem Governs.forM {l : Layout ι} {x : ι → Access Unit} (h : l.Governs x) (is : List ι) {b : Bytes}
    (hb : l.size ≤ b.length) : is.forM x b = (.ok (), l.after is b) := by
  induction is generalizing b with
  | nil => rfl
  | cons i is ih =>
    have hrest := ih (b := Cell.paintAll l.cells i b) (by rw [Cell.length_paintAll]; exact hb)
    change (x i >>= fun _ => is.forM x) b = _
    rw [Access.bind_apply, h i b hb]
    exact hrest

end Layout

end FalconPmu
