import FalconPmu.Proofs.Firmware.Course
import FalconPmu.Proofs.Firmware.Ledger

namespace FalconPmu

variable {L B L' B' : Type} {same : L → L' → Prop} {twin : B → B' → Prop}

namespace Loader

/-- The loaders paired by `same` stay so as long as they are asked for the same parts and given back
twins. Twins have the same content. -/
structure Twins [Loader L B] [Loader L' B'] [Blob B] [Blob B'] (same : L → L' → Prop)
    (twin : B → B' → Prop) : Prop where
  requested {l l'} (h : same l l') (name : String) :
    Option.Rel twin (request name l).1 (request name l').1
  request {l l'} (h : same l l') (name : String) : same (request name l).2 (request name l').2
  release {l l' b b'} (h : same l l') (hb : twin b b') : same (release b l) (release b' l')
  bytes {b b'} (hb : twin b b') : Blob.bytes b = Blob.bytes b'

inductive Event.Twin (twin : B → B' → Prop) : Event B → Event B' → Prop
  | missing (name) : Twin twin (.missing name) (.missing name)
  | handedOut (name) {b b'} (h : twin b b') : Twin twin (.handedOut name b) (.handedOut name b')
  | returned {b b'} (h : twin b b') : Twin twin (.returned b) (.returned b')

structure Traced.Twin (same : L → L' → Prop) (twin : B → B' → Prop) (t : Traced L B)
    (t' : Traced L' B') : Prop where
  loader : same t.loader t'.loader
  events : List.Forall₂ (Event.Twin twin) t.events t'.events

variable [Loader L B] [Loader L' B'] [Blob B] [Blob B']

theorem twins_eq : Twins (Eq : L → L → Prop) Eq where
  requested {l l'} h name := by
    cases h
    cases (Loader.request name l).1 with
    | none => exact .none
    | some b => exact .some rfl
  request h name := by rw [h]
  release h hb := by rw [h, hb]
  bytes hb := by rw [hb]

theorem Twins.request_cases (twins : Twins same twin) {l : L} {l' : L'} (h : same l l')
    (name : String) :
    (∃ l₁ l₁', Loader.request name l = (none, l₁) ∧ Loader.request name l' = (none, l₁') ∧
        same l₁ l₁') ∨
      ∃ b b' l₁ l₁', Loader.request name l = (some b, l₁) ∧
        Loader.request name l' = (some b', l₁') ∧ twin b b' ∧ same l₁ l₁' := by
  have hblob := twins.requested h name
  have hloader := twins.request h name
  generalize Loader.request name l = r at hblob hloader ⊢
  generalize Loader.request name l' = r' at hblob hloader ⊢
  obtain ⟨b, l₁⟩ := r
  obtain ⟨b', l₁'⟩ := r'
  cases hblob with
  | none => exact .inl ⟨l₁, l₁', rfl, rfl, hloader⟩
  | some hb => exact .inr ⟨_, _, l₁, l₁', rfl, rfl, hb, hloader⟩

theorem Twins.traced (twins : Twins same twin) : Twins (Traced.Twin same twin) twin where
  requested h name := by
    obtain ⟨l₁, l₁', hl, hl', -⟩ | ⟨b, b', l₁, l₁', hl, hl', hb, -⟩ := twins.request_cases h.loader name
    · simp [Firmware.request_traced, hl, hl']
    · simpa [Firmware.request_traced, hl, hl'] using Option.Rel.some hb
  request h name := by
    obtain ⟨l₁, l₁', hl, hl', hsame⟩ | ⟨b, b', l₁, l₁', hl, hl', hb, hsame⟩ :=
      twins.request_cases h.loader name
    · simp only [Firmware.request_traced, hl, hl']
      exact ⟨hsame, List.rel_append h.events (.cons (.missing name) .nil)⟩
    · simp only [Firmware.request_traced, hl, hl']
      exact ⟨hsame, List.rel_append h.events (.cons (.handedOut name hb) .nil)⟩
  release h hb :=
    ⟨twins.release h.loader hb, List.rel_append h.events (.cons (.returned hb) .nil)⟩
  bytes := twins.bytes

end Loader

open Loader (Twins)

inductive Blobs.Twin (twin : B → B' → Prop) : Blobs B → Blobs B' → Prop
  | unlocked {b b'} (h : twin b b') : Twin twin (.unlocked b) (.unlocked b')
  | secure {i d s i' d' s'} (image : twin i i') (descriptor : twin d d') (signature : twin s s') :
      Twin twin (.secure i d s) (.secure i' d' s')

theorem Blobs.Twin.carrier {blobs : Blobs B} {blobs' : Blobs B'} (h : blobs.Twin twin blobs') :
    twin blobs.carrier blobs'.carrier := by
  cases h with
  | unlocked h => exact h
  | secure image descriptor signature => exact descriptor

theorem Blobs.Twin.newestFirst {blobs : Blobs B} {blobs' : Blobs B'} (h : blobs.Twin twin blobs') :
    List.Forall₂ twin blobs.newestFirst blobs'.newestFirst := by
  cases h with
  | unlocked h => exact .cons h .nil
  | secure image descriptor signature => exact .cons signature (.cons descriptor (.cons image .nil))

theorem Blobs.Twin.parts {blobs : Blobs B} {blobs' : Blobs B'} (h : blobs.Twin twin blobs') :
    blobs.parts.map Prod.fst = blobs'.parts.map Prod.fst := by
  cases h <;> rfl

theorem Blobs.Twin.refl (blobs : Blobs B) : blobs.Twin Eq blobs := by
  cases blobs with
  | unlocked b => exact .unlocked rfl
  | secure i d s => exact .secure rfl rfl rfl

theorem Blobs.Twin.eq {blobs blobs' : Blobs B} (h : blobs.Twin Eq blobs') : blobs = blobs' := by
  cases h with
  | unlocked h => rw [h]
  | secure image descriptor signature => rw [image, descriptor, signature]

namespace Firmware

structure Twin (twin : B → B' → Prop) (f : Firmware B) (f' : Firmware B') : Prop where
  blobs : f.blobs.Twin twin f'.blobs
  descriptor : f.descriptor = f'.descriptor
  bundle : f.bundle = f'.bundle

theorem Twin.refl (f : Firmware B) : f.Twin Eq f := ⟨.refl f.blobs, rfl, rfl⟩

theorem Twin.eq {f f' : Firmware B} (h : f.Twin Eq f') : f = f' := by
  obtain ⟨blobs, d, bundle⟩ := f
  obtain ⟨blobs', d', bundle'⟩ := f'
  obtain ⟨hblobs, hd, hbundle⟩ := h
  cases hblobs.eq
  cases hd
  cases hbundle
  rfl

inductive Course.Twin (twin : B → B' → Prop) : Course B → Course B' → Prop
  | refused {c c' e} (result : c.result = .error e) (result' : c'.result = .error e)
      (notices : c.notices = c'.notices) : Twin twin c c'
  | loaded {f f'} (firmware : f.Twin twin f') : Twin twin (.loaded f) (.loaded f')

theorem Twin.notices {f : Firmware B} {f' : Firmware B'} (h : f.Twin twin f') :
    (Course.loaded f).notices = (Course.loaded f').notices := by
  refine Course.notices_congr h.blobs.parts rfl ?_
  rw [Course.verdict, Course.verdict, h.descriptor, h.bundle]

theorem Course.Twin.of_error {c : Course B} {c' : Course B'} {e : Fault} (h : c.Twin twin c')
    (failed : c.result = .error e) : c'.result = .error e ∧ c.notices = c'.notices := by
  cases h with
  | refused result result' notices =>
    rw [result] at failed
    cases failed
    exact ⟨result', notices⟩
  | loaded firmware => cases failed

theorem Course.Twin.of_loaded {f : Firmware B} {c' : Course B'}
    (h : (Course.loaded f).Twin twin c') : ∃ f', c' = .loaded f' ∧ f.Twin twin f' := by
  cases h with
  | refused result result' notices => cases result
  | @loaded _ f' firmware => exact ⟨f', rfl, firmware⟩

variable [Loader L B] [Loader L' B'] [Blob B] [Blob B']

theorem releaseAll_twins (twins : Twins same twin) {bs : List B} {bs' : List B'}
    (hbs : List.Forall₂ twin bs bs') {l : L} {l' : L'} (h : same l l') :
    same (releaseAll bs l) (releaseAll bs' l') := by
  induction hbs generalizing l l' with
  | nil => exact h
  | cons hb _ ih => exact ih (twins.release h hb)

theorem judge_twins (twins : Twins same twin) {blobs : Blobs B} {blobs' : Blobs B'}
    (hblobs : blobs.Twin twin blobs') {l : L} {l' : L'} (h : same l l') :
    (judge blobs l).1.Twin twin (judge blobs' l').1 ∧ same (judge blobs l).2 (judge blobs' l').2 := by
  have hreleased := releaseAll_twins twins hblobs.newestFirst h
  simp only [judge, ← twins.bytes hblobs.carrier]
  cases Descriptor.parse (Blob.bytes blobs.carrier) with
  | error e => exact ⟨.refused rfl rfl (Course.notices_congr hblobs.parts rfl rfl), hreleased⟩
  | ok d =>
    simp only
    cases Bundle.select d.appVersion with
    | error e => exact ⟨.refused rfl rfl (Course.notices_congr hblobs.parts rfl rfl), hreleased⟩
    | ok bundle => exact ⟨.loaded ⟨hblobs, rfl, rfl⟩, h⟩

theorem fetch_twins (twins : Twins same twin) (secure : Bool) {l : L} {l' : L'} (h : same l l') :
    (fetch secure l).1.Twin twin (fetch secure l').1 ∧
      same (fetch secure l).2 (fetch secure l').2 := by
  cases secure with
  | false =>
    simp only [fetch, Bool.false_eq_true, if_false]
    obtain ⟨l₁, l₁', hl, hl', h₁⟩ | ⟨b, b', l₁, l₁', hl, hl', hb, h₁⟩ :=
      twins.request_cases h Part.combined.fileName
    · simp only [hl, hl']
      exact ⟨.refused rfl rfl rfl, h₁⟩
    · simp only [hl, hl']
      exact judge_twins twins (.unlocked hb) h₁
  | true =>
    simp only [fetch, if_true]
    obtain ⟨l₁, l₁', hl, hl', h₁⟩ | ⟨i, i', l₁, l₁', hl, hl', hi, h₁⟩ :=
      twins.request_cases h Part.image.fileName
    · simp only [hl, hl']
      exact ⟨.refused rfl rfl rfl, h₁⟩
    simp only [hl, hl']
    obtain ⟨l₂, l₂', hl, hl', h₂⟩ | ⟨d, d', l₂, l₂', hl, hl', hd, h₂⟩ :=
      twins.request_cases h₁ Part.descriptor.fileName
    · simp only [hl, hl']
      exact ⟨.refused rfl rfl rfl, releaseAll_twins twins (.cons hi .nil) h₂⟩
    simp only [hl, hl']
    obtain ⟨l₃, l₃', hl, hl', h₃⟩ | ⟨s, s', l₃, l₃', hl, hl', hs, h₃⟩ :=
      twins.request_cases h₂ Part.signature.fileName
    · simp only [hl, hl']
      exact ⟨.refused rfl rfl rfl, releaseAll_twins twins (.cons hd (.cons hi .nil)) h₃⟩
    · simp only [hl, hl']
      exact judge_twins twins (.secure hi hd hs) h₃

end Firmware

end FalconPmu
