import FalconPmu.Proofs.Firmware.Course

namespace FalconPmu.Firmware

variable {L B : Type}

def refund (acquired : List (Part × B)) (absent : Option Part) : List (Loader.Event B) :=
  acquired.map (fun a => .handedOut a.1.fileName a.2) ++
    (absent.toList.map (fun p => .missing p.fileName) ++
      (acquired.map Prod.snd).reverse.map .returned)

theorem Course.events_of_error {c : Course B} {e : Fault} (h : c.result = .error e) :
    c.events = refund c.acquired c.absent := by
  cases c with
  | loaded f => cases h
  | _ => rfl

def parts (secure : Bool) : List Part :=
  if secure then [.image, .descriptor, .signature] else [.combined]

def carrierPart (secure : Bool) : Part := if secure then .descriptor else .combined

theorem map_fst_parts (blobs : Blobs B) : blobs.parts.map Prod.fst = parts blobs.isSecure := by
  cases blobs <;> rfl

theorem carrier_mem_parts (blobs : Blobs B) :
    (carrierPart blobs.isSecure, blobs.carrier) ∈ blobs.parts := by
  cases blobs <;> simp [carrierPart, Blobs.isSecure, Blobs.carrier, Blobs.parts]

variable [Blob B]

/-- The faults of a load that acquired the given parts and found the part `absent` missing, if any. -/
inductive Refusal (secure : Bool) (acquired : List (Part × B)) : Option Part → Fault → Prop
  | missing {p} (next : acquired.map Prod.fst ++ [p] <+: parts secure) :
      Refusal secure acquired (some p) (.firmwareLoad p.fileName)
  | malformed {b} (complete : acquired.map Prod.fst = parts secure)
      (carrier : (carrierPart secure, b) ∈ acquired)
      (parsed : Descriptor.parse (Blob.bytes b) = .error .malformedDescriptor) :
      Refusal secure acquired none .malformedDescriptor
  | unsupported {b d} (complete : acquired.map Prod.fst = parts secure)
      (carrier : (carrierPart secure, b) ∈ acquired)
      (parsed : Descriptor.parse (Blob.bytes b) = .ok d)
      (unknown : ∀ f : Family, f.number ≠ d.appVersion) :
      Refusal secure acquired none (.unsupportedVersion d.appVersion)

variable [Loader L B]

theorem refusal_of_judge {blobs : Blobs B} {l : L} {e : Fault}
    (h : (judge blobs l).1.result = .error e) :
    Refusal blobs.isSecure (judge blobs l).1.acquired (judge blobs l).1.absent e := by
  rw [acquired_judge, absent_judge]
  unfold judge at h
  split at h
  case h_1 e' hd =>
    cases Descriptor.eq_malformed_of_parse hd
    cases h
    exact .malformed (map_fst_parts blobs) (carrier_mem_parts blobs) hd
  case h_2 d hd =>
    split at h
    case h_1 e' hb =>
      cases h
      exact .unsupported (map_fst_parts blobs) (carrier_mem_parts blobs) hd (Bundle.select_eq_error hb).2
    case h_2 => cases h

theorem refusal_of_fetch {secure : Bool} {l : L} {e : Fault}
    (h : (fetch secure l).1.result = .error e) :
    Refusal secure (fetch secure l).1.acquired (fetch secure l).1.absent e := by
  cases secure with
  | false =>
    simp only [fetch, Bool.false_eq_true, if_false] at h ⊢
    split at h
    · cases h
      exact .missing (List.prefix_refl _)
    · exact refusal_of_judge h
  | true =>
    simp only [fetch, if_true] at h ⊢
    split at h
    · cases h
      exact .missing ⟨[.descriptor, .signature], rfl⟩
    split at h
    · cases h
      exact .missing ⟨[.signature], rfl⟩
    split at h
    · cases h
      exact .missing (List.prefix_refl _)
    · exact refusal_of_judge h

end FalconPmu.Firmware
