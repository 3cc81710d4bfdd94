import FalconPmu.Bundle

namespace FalconPmu

namespace Family

theorem ofNumber_number (f : Family) : ofNumber f.number = .ok f := by
  cases f <;> rfl

theorem ofNumber_eq_ok_iff {n : UInt32} {f : Family} : ofNumber n = .ok f ↔ f.number = n := by
  constructor
  · intro h
    rw [ofNumber] at h
    split at h
    case h_1 g hg =>
      cases h
      simpa using List.find?_some hg
    case h_2 => cases h
  · intro h
    rw [← h, ofNumber_number]

theorem ofNumber_eq_error {n : UInt32} {e : Fault} (h : ofNumber n = .error e) :
    e = .unsupportedVersion n := by
  rw [ofNumber] at h
  split at h
  · cases h
  · cases h
    rfl

end Family

namespace Bundle

theorem family_ofFamily (f : Family) : (ofFamily f).family = f := by
  cases f <;> rfl

theorem select_number (f : Family) : select f.number = .ok (ofFamily f) := by
  rw [select, Family.ofNumber_number]
  rfl

theorem select_eq_ok {n : UInt32} {b : Bundle} (h : select n = .ok b) :
    b = ofFamily b.family ∧ b.family.number = n := by
  rw [select] at h
  cases hf : Family.ofNumber n with
  | error e =>
    rw [hf] at h
    cases h
  | ok f =>
    rw [hf] at h
    cases h
    rw [family_ofFamily]
    exact ⟨rfl, Family.ofNumber_eq_ok_iff.1 hf⟩

theorem select_eq_error {n : UInt32} {e : Fault} (h : select n = .error e) :
    e = .unsupportedVersion n ∧ ∀ f : Family, f.number ≠ n := by
  constructor
  · rw [select] at h
    cases hf : Family.ofNumber n with
    | error e' =>
      rw [hf] at h
      cases h
      exact Family.ofNumber_eq_error hf
    | ok f =>
      rw [hf] at h
      cases h
  · rintro f rfl
    rw [select_number] at h
    cases h

end Bundle

end FalconPmu
