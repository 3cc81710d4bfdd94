import FalconPmu.Firmware.Descriptor
import FalconPmu.Proofs.Text.Utf8
import Mathlib.Data.List.TakeWhile
import Mathlib.Logic.ExistsUnique

namespace FalconPmu.Descriptor

inductive BeforeNul (text : Bytes) : Bytes → Prop
  | whole (clean : 0 ∉ text) : BeforeNul text text
  | cut {rest} (clean : 0 ∉ text) : BeforeNul text (text ++ 0 :: rest)

theorem beforeNul_takeWhile (date : Bytes) : BeforeNul (date.takeWhile (· != 0)) date := by
  induction date with
  | nil => exact .whole (by simp)
  | cons b date ih =>
    by_cases hb : b = 0
    · subst hb
      exact .cut (by simp)
    · rw [List.takeWhile_cons_of_pos (by simpa using hb)]
      generalize date.takeWhile (· != 0) = text at ih
      cases ih with
      | whole clean => exact .whole (by simp [clean, Ne.symm hb])
      | cut clean => exact .cut (by simp [clean, Ne.symm hb])

namespace BeforeNul

variable {text date : Bytes}

theorem clean (h : BeforeNul text date) : 0 ∉ text := by
  cases h <;> assumption

theorem front (h : BeforeNul text date) : text <+: date := by
  cases h with
  | whole clean => exact List.prefix_refl text
  | cut clean => exact List.prefix_append text _

theorem takeWhile_eq (h : BeforeNul text date) : date.takeWhile (· != 0) = text := by
  have passes : ∀ b ∈ text, (b != 0) = true := by
    intro b hb
    have nonzero : b ≠ 0 := ne_of_mem_of_not_mem hb h.clean
    simpa using nonzero
  cases h with
  | whole clean => exact List.takeWhile_eq_self_iff.2 passes
  | cut clean => simp [List.takeWhile_append_of_pos passes]

end BeforeNul

theorem existsUnique_beforeNul (date : Bytes) : ∃! text, BeforeNul text date := by
  refine ⟨_, beforeNul_takeWhile date, ?_⟩
  intro text h
  exact h.takeWhile_eq.symm

theorem dateText_eq_some_iff {d : Descriptor} {text : Bytes} (h : BeforeNul text d.date) {s : String} :
    d.dateText = some s ↔ Utf8.encode s = text := by
  rw [dateText, h.takeWhile_eq, Utf8.fromUTF8?_eq_some_iff]

structure Dated (d : Descriptor) (text : Bytes) : Prop where
  readable : (∃ s, d.dateText = some s) ↔ Utf8.WellFormed text
  written : ∀ s, d.dateText = some s ↔ Utf8.encode s = text
  clean : ∀ s, d.dateText = some s → '\x00' ∉ s.toList
  front : ∀ s, d.dateText = some s → Utf8.encode s <+: d.date
  alike : ∀ d' : Descriptor, BeforeNul text d'.date → d'.dateText = d.dateText

/-- A date reads as the text that its bytes before the first NUL encode, if they are well-formed, and as
nothing otherwise. The bytes after the NUL have no part in it. -/
theorem dated_descriptor (d : Descriptor) :
    (∃! text, BeforeNul text d.date) ∧ ∀ text, BeforeNul text d.date → Dated d text := by
  refine ⟨existsUnique_beforeNul d.date, ?_⟩
  intro text h
  constructor
  case readable => simp only [dateText_eq_some_iff h, Utf8.exists_encode_iff]
  case written => exact fun s => dateText_eq_some_iff h
  case clean =>
    intro s hs hnul
    apply h.clean
    rw [← (dateText_eq_some_iff h).1 hs]
    exact List.mem_flatMap.2 ⟨'\x00', hnul, by decide⟩
  case front =>
    intro s hs
    rw [(dateText_eq_some_iff h).1 hs]
    exact h.front
  case alike =>
    intro d' h'
    rw [dateText, dateText, h.takeWhile_eq, h'.takeWhile_eq]

theorem dated_descriptor_littered :
    let text : Bytes := [0x32, 0xc3, 0xa9]
    let d : Descriptor := { ofBytes [] with date := text ++ 0 :: List.replicate 60 0xff }
    d.date.length = 64 ∧ d.dateText = some "2é" ∧ Utf8.WellFormed text ∧
      ∀ d' : Descriptor, d'.date = text → d'.dateText = some "2é" := by
  intro text d
  have clean : 0 ∉ text := by decide
  have dated := (dated_descriptor d).2 text (.cut clean)
  have reads : d.dateText = some "2é" := (dated.written "2é").2 (by decide)
  refine ⟨rfl, reads, dated.readable.1 ⟨_, reads⟩, ?_⟩
  intro d' h
  rw [← reads]
  apply dated.alike
  rw [h]
  exact .whole clean

example (d : Descriptor) (h : d.date = [0x32, 0xe2, 0x82, 0, 0xac, 0]) : d.dateText = none := by
  rw [dateText, h]
  decide

end FalconPmu.Descriptor
