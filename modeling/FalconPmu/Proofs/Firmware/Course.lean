import FalconPmu.Firmware.Load
import FalconPmu.Proofs.Selection

namespace FalconPmu

theorem Descriptor.eq_malformed_of_parse {b : Bytes} {e : Fault} (h : parse b = .error e) :
    e = .malformedDescriptor := by
  rw [parse] at h
  split at h
  · cases h
  · cases h
    rfl

def Blobs.parts {B : Type} : Blobs B → List (Part × B)
  | unlocked combined => [(.combined, combined)]
  | secure image descriptor signature =>
    [(.image, image), (.descriptor, descriptor), (.signature, signature)]

theorem Blobs.newestFirst_eq {B : Type} (blobs : Blobs B) :
    blobs.newestFirst = (blobs.parts.map Prod.snd).reverse := by
  cases blobs <;> rfl

namespace Firmware

variable {L B : Type}

/-- A blob is missing after those acquired before it, or all are there and the descriptor decides. -/
inductive Course (B : Type) where
  | missing (acquired : List (Part × B)) (p : Part)
  | malformed (blobs : Blobs B)
  | unsupported (blobs : Blobs B) (version : UInt32)
  | loaded (f : Firmware B)

namespace Course

def acquired : Course B → List (Part × B)
  | missing acquired _ => acquired
  | malformed blobs | unsupported blobs _ => blobs.parts
  | loaded f => f.blobs.parts

def absent : Course B → Option Part
  | missing _ p => some p
  | malformed _ | unsupported _ _ | loaded _ => none

def result : Course B → Except Fault (Firmware B)
  | missing _ p => .error (.firmwareLoad p.fileName)
  | malformed _ => .error .malformedDescriptor
  | unsupported _ version => .error (.unsupportedVersion version)
  | loaded f => .ok f

def returned (c : Course B) : List B :=
  match c with
  | loaded _ => []
  | _ => (c.acquired.map Prod.snd).reverse

def verdict : Course B → Notice
  | missing _ p => .blobMissing p.fileName
  | malformed _ => .descriptorMalformed
  | unsupported _ version => .versionUnsupported version
  | loaded f => .versionSelected f.descriptor.appVersion f.bundle.family

def notices (c : Course B) : List Notice :=
  (c.acquired.map Prod.fst ++ c.absent.toList).map (fun p => .blobRequested p.fileName) ++
    [c.verdict]

theorem notices_congr {B' : Type} {c : Course B} {c' : Course B'}
    (acquired : c.acquired.map Prod.fst = c'.acquired.map Prod.fst) (absent : c.absent = c'.absent)
    (verdict : c.verdict = c'.verdict) : c.notices = c'.notices := by
  rw [notices, notices, acquired, absent, verdict]

open Loader in
def events (c : Course B) : List (Event B) :=
  c.acquired.map (fun a => .handedOut a.1.fileName a.2) ++
    (c.absent.toList.map (fun p => .missing p.fileName) ++ c.returned.map .returned)

theorem eq_loaded_of_result {c : Course B} {f : Firmware B} (h : c.result = .ok f) :
    c = loaded f := by
  cases c with
  | loaded g =>
    cases h
    rfl
  | _ => cases h

end Course

variable [Loader L B] [Blob B]

def judge (blobs : Blobs B) (l : L) : Course B × L :=
  match Descriptor.parse (Blob.bytes blobs.carrier) with
  | .error _ => (.malformed blobs, releaseAll blobs.newestFirst l)
  | .ok d =>
    match Bundle.select d.appVersion with
    | .error _ => (.unsupported blobs d.appVersion, releaseAll blobs.newestFirst l)
    | .ok bundle => (.loaded ⟨blobs, d, bundle⟩, l)

def fetch (secure : Bool) (l : L) : Course B × L :=
  if secure then
    match Loader.request Part.image.fileName l with
    | (none, l) => (.missing [] .image, l)
    | (some image, l) =>
      match Loader.request Part.descriptor.fileName l with
      | (none, l) => (.missing [(.image, image)] .descriptor, releaseAll [image] l)
      | (some descriptor, l) =>
        match Loader.request Part.signature.fileName l with
        | (none, l) =>
          (.missing [(.image, image), (.descriptor, descriptor)] .signature,
            releaseAll [descriptor, image] l)
        | (some signature, l) => judge (.secure image descriptor signature) l
  else
    match Loader.request Part.combined.fileName l with
    | (none, l) => (.missing [] .combined, l)
    | (some combined, l) => judge (.unlocked combined) l

omit [Blob B] in
theorem request_apply (p : Part) (l : L) :
    request p l = match Loader.request p.fileName l with
      | (none, l) => ⟨.error (.firmwareLoad p.fileName), l,
          [.blobRequested p.fileName, .blobMissing p.fileName]⟩
      | (some b, l) => ⟨.ok b, l, [.blobRequested p.fileName]⟩ := by
  simp only [request, Action.bind_apply, Action.note_apply, Action.update_apply]
  rcases Loader.request p.fileName l with ⟨_ | _, l⟩ <;> rfl

omit [Blob B] in
theorem holding_apply {α : Type} (blobs : List B) (x : Action L α) (l : L) :
    holding blobs x l = match x l with
      | ⟨.ok a, l, js⟩ => ⟨.ok a, l, js⟩
      | ⟨.error e, l, js⟩ => ⟨.error e, releaseAll blobs l, js⟩ := by
  simp only [holding, Action.bind_apply, Action.attempt_apply]
  rcases x l with ⟨_ | _, l, js⟩ <;> simp [Action.bind_apply]

theorem acquired_judge (blobs : Blobs B) (l : L) : (judge blobs l).1.acquired = blobs.parts := by
  unfold judge
  split
  · rfl
  split <;> rfl

theorem absent_judge (blobs : Blobs B) (l : L) : (judge blobs l).1.absent = none := by
  unfold judge
  split
  · rfl
  split <;> rfl

theorem notices_judge (blobs : Blobs B) (l : L) :
    (judge blobs l).1.notices =
      blobs.parts.map (fun a => .blobRequested a.1.fileName) ++ [(judge blobs l).1.verdict] := by
  rw [Course.notices, acquired_judge, absent_judge]
  simp

theorem holding_select_apply (blobs : Blobs B) (l : L) :
    (do
        let (d, bundle) ← holding blobs.newestFirst (select (Blob.bytes blobs.carrier))
        return ⟨blobs, d, bundle⟩ : Action L (Firmware B)) l =
      ⟨(judge blobs l).1.result, (judge blobs l).2, [(judge blobs l).1.verdict]⟩ := by
  simp only [Action.bind_apply, holding_apply, select, Action.noteFailure, Action.attempt_apply,
    Action.ofExcept_apply, judge]
  cases hd : Descriptor.parse (Blob.bytes blobs.carrier) with
  | error e =>
    cases Descriptor.eq_malformed_of_parse hd
    rfl
  | ok d =>
    simp only [Action.pure_apply]
    cases hb : Bundle.select d.appVersion with
    | error e =>
      cases (Bundle.select_eq_error hb).1
      rfl
    | ok bundle => rfl

theorem load_apply (secure : Bool) (l : L) :
    load secure l =
      ⟨(fetch secure l).1.result, (fetch secure l).2, (fetch secure l).1.notices⟩ := by
  cases secure with
  | false =>
    simp only [load, fetch, Bool.false_eq_true, if_false]
    rw [loadUnlocked, Action.bind_apply, request_apply]
    rcases Loader.request Part.combined.fileName l with ⟨_ | combined, l⟩
    · rfl
    · have conclude := holding_select_apply (.unlocked combined) l
      simp only [Blobs.newestFirst, Blobs.carrier] at conclude
      simp only [conclude, notices_judge]
      rfl
  | true =>
    simp only [load, fetch, if_true]
    rw [loadSecure, Action.bind_apply, request_apply]
    rcases Loader.request Part.image.fileName l with ⟨_ | image, l⟩
    · rfl
    simp only
    rw [Action.bind_apply, holding_apply, request_apply]
    rcases Loader.request Part.descriptor.fileName l with ⟨_ | descriptor, l⟩
    · rfl
    simp only
    rw [Action.bind_apply, holding_apply, request_apply]
    rcases Loader.request Part.signature.fileName l with ⟨_ | signature, l⟩
    · rfl
    · have conclude := holding_select_apply (.secure image descriptor signature) l
      simp only [Blobs.newestFirst, Blobs.carrier] at conclude
      simp only [conclude, notices_judge]
      rfl

structure Genuine (secure : Bool) (f : Firmware B) : Prop where
  mode : f.blobs.isSecure = secure
  parsed : Descriptor.parse (Blob.bytes f.blobs.carrier) = .ok f.descriptor
  selected : Bundle.select f.descriptor.appVersion = .ok f.bundle

theorem genuine_of_judge {blobs : Blobs B} {l : L} {f : Firmware B}
    (h : (judge blobs l).1 = .loaded f) : Genuine blobs.isSecure f := by
  unfold judge at h
  split at h
  · cases h
  case h_2 d hd =>
    split at h
    · cases h
    case h_2 bundle hb =>
      cases h
      exact ⟨rfl, hd, hb⟩

theorem genuine_of_fetch {secure : Bool} {l : L} {f : Firmware B}
    (h : (fetch secure l).1 = .loaded f) : Genuine secure f := by
  cases secure with
  | false =>
    simp only [fetch, Bool.false_eq_true, if_false] at h
    split at h
    · cases h
    · exact genuine_of_judge h
  | true =>
    simp only [fetch, if_true] at h
    split at h
    · cases h
    split at h
    · cases h
    split at h
    · cases h
    · exact genuine_of_judge h

section Traced

open Loader (Traced)

omit [Blob B]

theorem releaseAll_traced (blobs : List B) (t : Traced L B) :
    releaseAll blobs t = ⟨releaseAll blobs t.loader, t.events ++ blobs.map .returned⟩ := by
  induction blobs generalizing t with
  | nil => simp [releaseAll]
  | cons b blobs ih =>
    change releaseAll blobs (Loader.release b t) = _
    rw [ih]
    simp [Loader.release, releaseAll]

theorem request_traced (name : String) (t : Traced L B) :
    Loader.request name t = match Loader.request name t.loader with
      | (none, l) => (none, ⟨l, t.events ++ [.missing name]⟩)
      | (some b, l) => (some b, ⟨l, t.events ++ [.handedOut name b]⟩) := by
  rcases h : Loader.request name t.loader with ⟨_ | _, l⟩ <;>
    simp only [Loader.request, h]

variable [Blob B]

theorem judge_traced (blobs : Blobs B) (t : Traced L B) :
    judge blobs t =
      ((judge blobs t.loader).1, ⟨(judge blobs t.loader).2,
        t.events ++ (judge blobs t.loader).1.returned.map .returned⟩) := by
  simp only [judge]
  split
  · simp [releaseAll_traced, Course.returned, Course.acquired, Blobs.newestFirst_eq]
  split
  · simp [releaseAll_traced, Course.returned, Course.acquired, Blobs.newestFirst_eq]
  · simp [Course.returned]

theorem fetch_traced (secure : Bool) (t : Traced L B) :
    fetch secure t =
      ((fetch secure t.loader).1, ⟨(fetch secure t.loader).2,
        t.events ++ (fetch secure t.loader).1.events⟩) := by
  cases secure with
  | false =>
    simp only [fetch, Bool.false_eq_true, if_false, request_traced]
    rcases Loader.request Part.combined.fileName t.loader with ⟨_ | combined, l⟩
    · rfl
    · simp [judge_traced, Course.events, acquired_judge, absent_judge, Blobs.parts]
  | true =>
    simp only [fetch, if_true, request_traced]
    rcases Loader.request Part.image.fileName t.loader with ⟨_ | image, l⟩
    · rfl
    simp only
    rcases Loader.request Part.descriptor.fileName l with ⟨_ | descriptor, l⟩
    · simp [releaseAll_traced, Course.events, Course.acquired, Course.absent, Course.returned]
    simp only
    rcases Loader.request Part.signature.fileName l with ⟨_ | signature, l⟩
    · simp [releaseAll_traced, Course.events, Course.acquired, Course.absent, Course.returned]
    · simp [judge_traced, Course.events, acquired_judge, absent_judge, Blobs.parts]

end Traced

end Firmware

end FalconPmu
