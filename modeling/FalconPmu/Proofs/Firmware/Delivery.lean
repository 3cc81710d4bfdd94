import FalconPmu.Firmware.Shelf
import FalconPmu.Proofs.Firmware.Descriptor
import FalconPmu.Proofs.Firmware.Refusal

namespace FalconPmu

open Loader (Traced)

namespace Firmware

variable {L B : Type}

structure Haul (L B : Type) where
  acquired : List (Part × B)
  absent : Option Part
  loader : L

section

variable [Loader L B]

def gather : List Part → L → Haul L B
  | [], l => ⟨[], none, l⟩
  | p :: ps, l =>
    match Loader.request p.fileName l with
    | (none, l) => ⟨[], some p, l⟩
    | (some b, l) => ⟨(p, b) :: (gather ps l).acquired, (gather ps l).absent, (gather ps l).loader⟩

theorem asked_gather (ps : List Part) (l : L) :
    (gather ps l).acquired.map Prod.fst ++ (gather ps l).absent.toList <+: ps := by
  induction ps generalizing l with
  | nil => exact List.prefix_refl []
  | cons p ps ih =>
    rw [gather]
    split
    · exact ⟨ps, rfl⟩
    · exact List.cons_prefix_cons.2 ⟨rfl, ih _⟩

theorem complete_gather (ps : List Part) (l : L) :
    (gather ps l).absent = none ↔ (gather ps l).acquired.map Prod.fst = ps := by
  induction ps generalizing l with
  | nil => simp [gather]
  | cons p ps ih =>
    rw [gather]
    split
    · simp
    · simp [ih]

end

def Haul.carried [Blob B] (h : Haul L B) (secure : Bool) : Option Bytes :=
  (h.acquired.lookup (carrierPart secure)).map Blob.bytes

theorem Haul.carried_parts [Blob B] {blobs : Blobs B} {secure : Bool} (mode : blobs.isSecure = secure)
    {absent : Option Part} {l : L} :
    (Haul.mk blobs.parts absent l).carried secure = some (Blob.bytes blobs.carrier) := by
  rw [← mode]
  cases blobs <;> rfl

variable [Loader L B] [Blob B]

/-- A load either ends at a missing part or leaves the judgement to a full set of blobs. -/
inductive Fetched (secure : Bool) : Haul L B → Course B × L → Prop
  | missing (acquired : List (Part × B)) {p l} :
      Fetched secure ⟨acquired, some p, l⟩
        (.missing acquired p, releaseAll (acquired.map Prod.snd).reverse l)
  | complete (blobs : Blobs B) (l : L) (mode : blobs.isSecure = secure) :
      Fetched secure ⟨blobs.parts, none, l⟩ (judge blobs l)

theorem fetched_fetch (secure : Bool) (l : L) :
    Fetched secure (gather (parts secure) l) (fetch secure l) := by
  cases secure with
  | false =>
    simp only [fetch, parts, Bool.false_eq_true, if_false, gather]
    rcases Loader.request Part.combined.fileName l with ⟨_ | combined, l⟩
    · exact .missing []
    · exact .complete (.unlocked combined) l rfl
  | true =>
    simp only [fetch, parts, if_true, gather]
    rcases Loader.request Part.image.fileName l with ⟨_ | image, l⟩
    · exact .missing []
    simp only
    rcases Loader.request Part.descriptor.fileName l with ⟨_ | descriptor, l⟩
    · exact .missing [(.image, image)]
    simp only
    rcases Loader.request Part.signature.fileName l with ⟨_ | signature, l⟩
    · exact .missing [(.image, image), (.descriptor, descriptor)]
    · exact .complete (.secure image descriptor signature) l rfl

structure Announces (b : Bytes) (family : Family) : Prop where
  long : 396 ≤ b.length
  word : family.number.toNat = Span.read ⟨12, 4⟩ b

theorem Announces.parse {b : Bytes} {family : Family} (announced : Announces b family) :
    Descriptor.parse b = .ok (.ofBytes b) :=
  if_pos announced.long

inductive Defect (b : Bytes) : Fault → Prop
  | short (short : b.length < 396) : Defect b .malformedDescriptor
  | unknown {n : UInt32} (long : 396 ≤ b.length) (word : n.toNat = Span.read ⟨12, 4⟩ b)
      (unknown : ∀ family : Family, family.number ≠ n) : Defect b (.unsupportedVersion n)

theorem Announces.not_defect {b : Bytes} {family : Family} (announced : Announces b family)
    (e : Fault) : ¬Defect b e := by
  intro defect
  cases defect with
  | short short => exact absurd announced.long (Nat.not_le_of_lt short)
  | unknown long word unknown =>
    exact unknown family (UInt32.toNat_inj.1 (announced.word.trans word.symm))

theorem judge_cases (blobs : Blobs B) (l : L) :
    (∃ e, Defect (Blob.bytes blobs.carrier) e ∧ (judge blobs l).1.result = .error e ∧
        (judge blobs l).2 = releaseAll (blobs.parts.map Prod.snd).reverse l) ∨
      ∃ family, Announces (Blob.bytes blobs.carrier) family ∧
        judge blobs l =
          (.loaded ⟨blobs, .ofBytes (Blob.bytes blobs.carrier), .ofFamily family⟩, l) := by
  have word : (Descriptor.ofBytes (Blob.bytes blobs.carrier)).appVersion.toNat =
      Span.read ⟨12, 4⟩ (Blob.bytes blobs.carrier) := Descriptor.toNat_word 12 _
  rw [judge, Descriptor.parse, ← Blobs.newestFirst_eq]
  by_cases long : Descriptor.size ≤ (Blob.bytes blobs.carrier).length
  · rw [if_pos long]
    simp only
    cases hb : Bundle.select (Descriptor.ofBytes (Blob.bytes blobs.carrier)).appVersion with
    | error e => exact .inl ⟨_, .unknown long word (Bundle.select_eq_error hb).2, rfl, rfl⟩
    | ok bundle =>
      obtain ⟨hbundle, hnumber⟩ := Bundle.select_eq_ok hb
      rw [← hnumber] at word
      rw [hbundle]
      exact .inr ⟨bundle.family, ⟨long, word⟩, rfl⟩
  · rw [if_neg long]
    exact .inl ⟨_, .short (Nat.lt_of_not_le long), rfl, rfl⟩

inductive Objection (secure : Bool) (h : Haul L B) : Fault → Prop
  | missing {p} (absent : h.absent = some p) : Objection secure h (.firmwareLoad p.fileName)
  | defective {b e} (complete : h.absent = none) (carried : h.carried secure = some b)
      (defect : Defect b e) : Objection secure h e

structure MadeOf (secure : Bool) (h : Haul L B) (f : Firmware B) : Prop where
  mode : f.blobs.isSecure = secure
  parts : f.blobs.parts = h.acquired
  described : ∃ b family, h.carried secure = some b ∧ Announces b family ∧
    Descriptor.parse b = .ok f.descriptor ∧ f.bundle = .ofFamily family

namespace Fetched

variable {secure : Bool} {h : Haul L B} {c : Course B × L}

theorem accepted_iff (fetched : Fetched secure h c) :
    (∃ f, c.1.result = .ok f) ↔
      h.absent = none ∧ ∃ b family, h.carried secure = some b ∧ Announces b family := by
  cases fetched with
  | missing =>
    constructor
    · rintro ⟨f, hf⟩
      cases hf
    · rintro ⟨hnone, -⟩
      cases hnone
  | complete blobs l mode =>
    rw [Haul.carried_parts mode]
    obtain ⟨e, defect, hresult, -⟩ | ⟨family, announced, hjudge⟩ := judge_cases blobs l
    · constructor
      · rintro ⟨f, hf⟩
        rw [hresult] at hf
        cases hf
      · rintro ⟨-, b, family, hb, announced⟩
        cases hb
        exact absurd defect (announced.not_defect e)
    · rw [hjudge]
      exact ⟨fun _ => ⟨rfl, _, family, rfl, announced⟩, fun _ => ⟨_, rfl⟩⟩

theorem of_ok (fetched : Fetched secure h c) {f : Firmware B} (hf : c.1.result = .ok f) :
    MadeOf secure h f ∧ c.2 = h.loader ∧
      c.1.events = h.acquired.map fun a => .handedOut a.1.fileName a.2 := by
  cases fetched with
  | missing => cases hf
  | complete blobs l mode =>
    obtain ⟨e, -, hresult, -⟩ | ⟨family, announced, hjudge⟩ := judge_cases blobs l
    · rw [hresult] at hf
      cases hf
    · rw [hjudge] at hf ⊢
      cases hf
      exact ⟨⟨mode, rfl, _, family, Haul.carried_parts mode, announced, announced.parse, rfl⟩, rfl,
        List.append_nil _⟩

theorem of_error (fetched : Fetched secure h c) {e : Fault} (he : c.1.result = .error e) :
    Objection secure h e ∧ c.2 = releaseAll (h.acquired.map Prod.snd).reverse h.loader ∧
      c.1.events = refund h.acquired h.absent := by
  have events := Course.events_of_error he
  cases fetched with
  | missing =>
    cases he
    exact ⟨.missing rfl, rfl, events⟩
  | complete blobs l mode =>
    rw [acquired_judge, absent_judge] at events
    obtain ⟨e', defect, hresult, hloader⟩ | ⟨family, -, hjudge⟩ := judge_cases blobs l
    · rw [hresult] at he
      cases he
      exact ⟨.defective rfl (Haul.carried_parts mode) defect, hloader, events⟩
    · rw [hjudge] at he
      cases he

end Fetched

def identity (f : Firmware B) : Descriptor × Bundle := (f.descriptor, f.bundle)

/-- Hauls of the same parts, with the same bytes where the descriptor is. -/
structure Alike {L' B' : Type} [Blob B'] (secure : Bool) (h : Haul L B) (h' : Haul L' B') : Prop where
  parts : h'.acquired.map Prod.fst = h.acquired.map Prod.fst
  absent : h'.absent = h.absent
  carried : h'.carried secure = h.carried secure

section Alike

variable {L' B' : Type} [Loader L' B'] [Blob B'] {secure : Bool}

theorem judge_alike {blobs : Blobs B} {blobs' : Blobs B'}
    (h : Blob.bytes blobs'.carrier = Blob.bytes blobs.carrier) (l : L) (l' : L') :
    (judge blobs' l').1.result.map identity = (judge blobs l).1.result.map identity ∧
      (judge blobs' l').1.verdict = (judge blobs l).1.verdict := by
  rw [judge, judge, h]
  split
  · exact ⟨rfl, rfl⟩
  split
  · exact ⟨rfl, rfl⟩
  · exact ⟨rfl, rfl⟩

theorem Fetched.alike {h : Haul L B} {h' : Haul L' B'} {c : Course B × L} {c' : Course B' × L'}
    (fetched : Fetched secure h c) (fetched' : Fetched secure h' c') (alike : Alike secure h h') :
    c'.1.result.map identity = c.1.result.map identity ∧ c'.1.notices = c.1.notices := by
  obtain ⟨parts, absent, carried⟩ := alike
  cases fetched with
  | missing =>
    cases fetched' with
    | missing =>
      cases absent
      exact ⟨rfl, Course.notices_congr parts rfl rfl⟩
    | complete => cases absent
  | complete blobs l mode =>
    cases fetched' with
    | missing => cases absent
    | complete blobs' l' mode' =>
      rw [Haul.carried_parts mode, Haul.carried_parts mode'] at carried
      obtain ⟨hresult, hverdict⟩ := judge_alike (Option.some.inj carried) l l'
      refine ⟨hresult, Course.notices_congr ?_ ?_ hverdict⟩
      · rw [acquired_judge, acquired_judge]
        exact parts
      · rw [absent_judge, absent_judge]

end Alike

structure Delivered (secure : Bool) (t : Traced L B) (h : Haul L B)
    (o : Outcome (Traced L B) (Firmware B)) : Prop where
  asked : h.acquired.map Prod.fst ++ h.absent.toList <+: parts secure
  complete_iff : h.absent = none ↔ h.acquired.map Prod.fst = parts secure
  accepted_iff : (∃ f, o.result = .ok f) ↔
    h.absent = none ∧ ∃ b family, h.carried secure = some b ∧ Announces b family
  accepted : ∀ f, o.result = .ok f → MadeOf secure h f ∧
    o.state = ⟨h.loader, t.events ++ h.acquired.map fun a => .handedOut a.1.fileName a.2⟩
  refused : ∀ e, o.result = .error e → Objection secure h e ∧
    o.state = ⟨releaseAll (h.acquired.map Prod.snd).reverse h.loader,
      t.events ++ refund h.acquired h.absent⟩
  indifferent : ∀ {L' B' : Type} [Loader L' B'] [Blob B'] (l' : L'),
    Alike secure h (gather (parts secure) l') →
      (load secure l').result.map identity = o.result.map identity ∧
        (load secure l').journal = o.journal

theorem load_traced (secure : Bool) (t : Traced L B) :
    load secure t =
      ⟨(fetch secure t.loader).1.result, ⟨(fetch secure t.loader).2,
        t.events ++ (fetch secure t.loader).1.events⟩, (fetch secure t.loader).1.notices⟩ := by
  rw [load_apply, fetch_traced]

theorem delivered_load (secure : Bool) (t : Traced L B) :
    Delivered secure t (gather (parts secure) t.loader) (load secure t) := by
  have fetched := fetched_fetch secure t.loader
  rw [load_traced]
  refine {
    asked := asked_gather _ _
    complete_iff := complete_gather _ _
    accepted_iff := fetched.accepted_iff
    accepted := ?_
    refused := ?_
    indifferent := ?_ }
  · intro f hf
    obtain ⟨made, hloader, hevents⟩ := fetched.of_ok hf
    rw [hloader, hevents]
    exact ⟨made, rfl⟩
  · intro e he
    obtain ⟨objection, hloader, hevents⟩ := fetched.of_error he
    rw [hloader, hevents]
    exact ⟨objection, rfl⟩
  · intro L' B' _ _ l' alike
    rw [load_apply]
    exact fetched.alike (fetched_fetch secure l') alike

theorem delivered_load_signed :
    let d : Bytes := List.replicate 12 0 ++ [0x0d, 0xa8, 0x38, 0x01] ++ List.replicate 380 0
    let entries : List (String × Bytes) := [(Part.image.fileName, [1, 2]), (Part.descriptor.fileName, d)]
    let full : Shelf := ⟨entries ++ [(Part.signature.fileName, [3])], 0⟩
    let bare : Shelf := ⟨entries, 0⟩
    let other : Shelf := ⟨[(Part.signature.fileName, []), (Part.descriptor.fileName, d),
      (Part.image.fileName, [])], 5⟩
    (∃ f, (load true (⟨full, []⟩ : Traced Shelf NumberedBlob)).result = .ok f) ∧
      (load true other).result.map identity =
        (load true (⟨full, []⟩ : Traced Shelf NumberedBlob)).result.map identity ∧
      ¬∃ f, (load true (⟨bare, []⟩ : Traced Shelf NumberedBlob)).result = .ok f := by
  intro d entries full bare other
  have announced : Announces d .gm20b := ⟨by decide +kernel, by decide +kernel⟩
  have delivered := delivered_load true (⟨full, []⟩ : Traced Shelf NumberedBlob)
  refine ⟨?_, ?_, ?_⟩
  · exact delivered.accepted_iff.2 ⟨rfl, d, .gm20b, rfl, announced⟩
  · exact (delivered.indifferent other ⟨rfl, rfl, rfl⟩).1
  · intro h
    have hnone := ((delivered_load true (⟨bare, []⟩ : Traced Shelf NumberedBlob)).accepted_iff.1 h).1
    cases hnone

end Firmware

end FalconPmu
