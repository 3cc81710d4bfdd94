import FalconPmu.Proofs.Publication

namespace FalconPmu.Bundle

inductive Obtained : Bundle → Prop
  | listed (f : Family) : Obtained (ofFamily f)
  | selected {version b} (h : select version = .ok b) : Obtained b

structure Indistinguishable (x y : Bundle) : Prop where
  versions : x.versions = y.versions
  zbcSave : x.zbcSave = y.zbcSave
  run : ∀ c buffer, x.run c buffer = y.run c buffer

theorem Indistinguishable.refl (x : Bundle) : Indistinguishable x x :=
  ⟨rfl, rfl, fun _ _ => rfl⟩

theorem beq_iff {x y : Bundle} : (x == y) = true ↔ x.family = y.family :=
  beq_iff_eq (a := x.family)

theorem Obtained.is_listed {b : Bundle} (h : b.Obtained) : b.Listed := by
  cases h with
  | listed f => rw [Listed, family_ofFamily]
  | selected h => exact (select_eq_ok h).1

theorem Obtained.indistinguishable_iff {x y : Bundle} (hx : x.Obtained) (hy : y.Obtained) :
    Indistinguishable x y ↔ (x == y) = true := by
  rw [beq_iff]
  constructor
  · intro h
    simpa [Bundle.run] using congrArg Prod.fst (h.run .family [])
  · intro h
    rw [hx.is_listed, hy.is_listed, h]
    exact .refl _

theorem exists_select_iff {n : UInt32} : (∃ b, select n = .ok b) ↔ ∃ f : Family, f.number = n := by
  constructor
  · rintro ⟨b, h⟩
    exact ⟨b.family, (select_eq_ok h).2⟩
  · rintro ⟨f, rfl⟩
    exact ⟨ofFamily f, select_number f⟩

theorem select_of_unknown {n : UInt32} (h : ¬∃ f : Family, f.number = n) :
    select n = .error (.unsupportedVersion n) := by
  cases hs : select n with
  | ok b => exact absurd (exists_select_iff.1 ⟨b, hs⟩) h
  | error e => rw [(select_eq_error hs).1]

theorem select_beq_self (n : UInt32) : (select n == select n) = true := by
  cases select n with
  | ok b => exact beq_iff.2 rfl
  | error e => exact beq_self_eq_true e

theorem select_beq_iff {m n : UInt32} : (select m == select n) = true ↔ m = n := by
  constructor
  · intro h
    cases hm : select m with
    | ok x =>
      cases hn : select n with
      | ok y =>
        rw [hm, hn] at h
        rw [← (select_eq_ok hm).2, ← (select_eq_ok hn).2, beq_iff.1 h]
      | error e =>
        rw [hm, hn] at h
        cases h
    | error d =>
      cases hn : select n with
      | ok y =>
        rw [hm, hn] at h
        cases h
      | error e =>
        rw [hm, hn, (select_eq_error hm).1, (select_eq_error hn).1] at h
        exact Fault.unsupportedVersion.inj (eq_of_beq h)
  · rintro rfl
    exact select_beq_self m

/-- Version words select alike only if they are the same. To compare bundles is to compare families, which
among the bundles that can be come by is as fine as any comparison that calls could make. -/
theorem congruent_selection :
    (∀ m n : UInt32, (select m == select n) = true ↔ m = n) ∧
    (∀ n, (∃ b, select n = .ok b) ↔ ∃ f : Family, f.number = n) ∧
    (∀ n b, select n = .ok b → b.family.number = n) ∧
    (∀ n, (¬∃ f : Family, f.number = n) → select n = .error (.unsupportedVersion n)) ∧
    (∀ x y : Bundle, (x == y) = true ↔ x.family = y.family) ∧
    ∀ x y : Bundle, x.Obtained → y.Obtained → ((x == y) = true ↔ Indistinguishable x y) :=
  ⟨fun _ _ => select_beq_iff, fun _ => exists_select_iff, fun _ _ h => (select_eq_ok h).2,
    fun _ h => select_of_unknown h, fun _ _ => beq_iff,
    fun _ _ hx hy => (hx.indistinguishable_iff hy).symm⟩

theorem congruent_selection_handmade :
    let x := ofFamily .gv10x
    let z := { ofFamily .gm20b with bootArgs := .v6 }
    (∃ b, select 25633490 = .ok b ∧ (x == b) = true ∧ Indistinguishable x b ∧
        b.family.number = 25633490) ∧
      x.versions = (ofFamily .tu10x).versions ∧ (select 25633490 == select 25622342) = false ∧
      (¬∃ f : Family, f.number = 0) ∧ select 0 = .error (.unsupportedVersion 0) ∧
      (z == ofFamily .gm20b) = true ∧ ¬z.Obtained := by
  intro x z
  obtain ⟨alike, -, family, unknown, -, congruence⟩ := congruent_selection
  have found : select 25633490 = .ok x := select_number .gv10x
  have absent : ¬∃ f : Family, f.number = 0 := by
    rintro ⟨f, hf⟩
    cases f <;> cases hf
  refine ⟨⟨x, found, rfl, ?_, family _ x found⟩, rfl, ?_, absent, unknown 0 absent, rfl, ?_⟩
  · exact (congruence x x (.listed .gv10x) (.selected found)).1 rfl
  · simp [Bool.eq_false_iff, alike]
  · intro obtained
    have same := (congruence z _ obtained (.listed .gm20b)).1 rfl
    cases congrArg Prod.fst (same.run (.bootArgs .size) [])

end FalconPmu.Bundle
