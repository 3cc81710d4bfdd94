import FalconPmu.Firmware.Loader
import Mathlib.Data.List.Induction
import Mathlib.Data.List.Perm.Subperm

/-!
What the record of a loader says if its blobs were returned in order: every blob was handed out before
it came back, none came back twice, and the record nests like brackets, but for the blobs still held.
-/

namespace FalconPmu.Loader

variable {B : Type}

def Event.blobOut : Event B → Option B
  | handedOut _ blob => some blob
  | missing _ | returned _ => none

def Event.blobBack : Event B → Option B
  | returned blob => some blob
  | missing _ | handedOut _ _ => none

def blobsOut (es : List (Event B)) : List B := es.filterMap Event.blobOut

def blobsBack (es : List (Event B)) : List B := es.filterMap Event.blobBack

inductive Bracketed : List (Event B) → Prop
  | nil : Bracketed []
  | missing {es name} : Bracketed es → Bracketed (.missing name :: es)
  | pair {inner es name blob} : Bracketed inner → Bracketed es →
      Bracketed (.handedOut name blob :: (inner ++ .returned blob :: es))

/-- Bracketed but for the blobs held, newest first. -/
inductive Nested : List B → List (Event B) → Prop
  | closed {es} : Bracketed es → Nested [] es
  | hold {held es name blob later} : Nested held es → Bracketed later →
      Nested (blob :: held) (es ++ .handedOut name blob :: later)

theorem Bracketed.append {es ds : List (Event B)} (hes : Bracketed es) (hds : Bracketed ds) :
    Bracketed (es ++ ds) := by
  induction hes with
  | nil => exact hds
  | missing _ ih => exact .missing ih
  | pair inner _ _ ih =>
    simp only [List.cons_append, List.append_assoc]
    exact .pair inner ih

theorem Nested.append {held : List B} {es ds : List (Event B)} (hes : Nested held es)
    (hds : Bracketed ds) : Nested held (es ++ ds) := by
  cases hes with
  | closed hes => exact .closed (hes.append hds)
  | hold hes later =>
    rw [List.append_assoc, List.cons_append]
    exact .hold hes (later.append hds)

theorem Nested.returned {held : List B} {es : List (Event B)} {blob : B}
    (h : Nested (blob :: held) es) : Nested held (es ++ [.returned blob]) := by
  cases h with
  | hold hes later =>
    rw [List.append_assoc]
    exact hes.append (.pair later .nil)

theorem Nested.acquired {α : Type} {held : List B} {es : List (Event B)} (h : Nested held es)
    (name : α → String) (as : List (α × B)) :
    Nested ((as.map Prod.snd).reverse ++ held)
      (es ++ as.map fun a => .handedOut (name a.1) a.2) := by
  induction as generalizing held es with
  | nil => simpa using h
  | cons a as ih => simpa using ih (.hold h .nil)

theorem Nested.givenBack {held blobs : List B} {es : List (Event B)}
    (h : Nested (blobs ++ held) es) : Nested held (es ++ blobs.map .returned) := by
  induction blobs generalizing es with
  | nil => simpa using h
  | cons b blobs ih => simpa using ih h.returned

theorem blobsOut_append (es ds : List (Event B)) : blobsOut (es ++ ds) = blobsOut es ++ blobsOut ds :=
  List.filterMap_append

theorem blobsBack_append (es ds : List (Event B)) :
    blobsBack (es ++ ds) = blobsBack es ++ blobsBack ds :=
  List.filterMap_append

theorem blobsOut_handedOut (name : String) (blob : B) (es : List (Event B)) :
    blobsOut (.handedOut name blob :: es) = blob :: blobsOut es := rfl

theorem blobsBack_handedOut (name : String) (blob : B) (es : List (Event B)) :
    blobsBack (.handedOut name blob :: es) = blobsBack es := rfl

theorem blobsOut_returned (blob : B) (es : List (Event B)) :
    blobsOut (.returned blob :: es) = blobsOut es := rfl

theorem blobsBack_returned (blob : B) (es : List (Event B)) :
    blobsBack (.returned blob :: es) = blob :: blobsBack es := rfl

theorem Bracketed.perm {es : List (Event B)} (h : Bracketed es) :
    (blobsOut es).Perm (blobsBack es) := by
  induction h with
  | nil => exact .nil
  | missing _ ih => exact ih
  | @pair inner es name blob _ _ ihInner ih =>
    simp only [blobsOut_handedOut, blobsBack_handedOut, blobsOut_append, blobsBack_append,
      blobsOut_returned, blobsBack_returned]
    exact ((ihInner.append ih).cons blob).trans List.perm_middle.symm

theorem Nested.perm {held : List B} {es : List (Event B)} (h : Nested held es) :
    (blobsOut es).Perm (blobsBack es ++ held) := by
  induction h with
  | closed hes => simpa using hes.perm
  | @hold held es name blob later _ hlater ih =>
    simp only [blobsOut_append, blobsBack_append, blobsOut_handedOut, blobsBack_handedOut,
      List.append_assoc]
    have swap : (held ++ blob :: blobsBack later).Perm (blobsBack later ++ blob :: held) := by
      calc
        List.Perm _ (blob :: (held ++ blobsBack later)) := List.perm_middle
        List.Perm _ (blob :: (blobsBack later ++ held)) := List.perm_append_comm.cons blob
        List.Perm _ _ := List.perm_middle.symm
    calc
      List.Perm _ ((blobsBack es ++ held) ++ blob :: blobsBack later) :=
        ih.append (hlater.perm.cons blob)
      _ = blobsBack es ++ (held ++ blob :: blobsBack later) := List.append_assoc _ _ _
      List.Perm _ _ := swap.append_left _

section Outstanding

variable [DecidableEq B]

def settle (held : List B) (es : List (Event B)) : Option (List B) :=
  es.foldlM (fun held e => e.apply held) held

theorem settle_cons (held : List B) (e : Event B) (es : List (Event B)) :
    settle held (e :: es) = (e.apply held).bind fun held => settle held es := List.foldlM_cons

theorem settle_append (held : List B) (es ds : List (Event B)) :
    settle held (es ++ ds) = (settle held es).bind fun held => settle held ds := List.foldlM_append

theorem outstanding_append (es ds : List (Event B)) :
    outstanding (es ++ ds) = (outstanding es).bind fun held => settle held ds := settle_append [] es ds

theorem outstanding_concat (es : List (Event B)) (e : Event B) :
    outstanding (es ++ [e]) = (outstanding es).bind e.apply := by
  rw [outstanding_append]
  cases outstanding es with
  | none => rfl
  | some held => simp [settle]

theorem Event.apply_returned {blob : B} {held held' : List B}
    (h : (Event.returned blob).apply held' = some held) : held' = blob :: held := by
  cases held' with
  | nil => cases h
  | cons newest held' =>
    rw [Event.apply] at h
    split at h
    case isTrue heq =>
      cases h
      rw [heq]
    case isFalse => cases h

theorem nested_of_outstanding {es : List (Event B)} {held : List B}
    (h : outstanding es = some held) : Nested held es := by
  induction es using List.reverseRecOn generalizing held with
  | nil =>
    cases h
    exact .closed .nil
  | append_singleton es e ih =>
    rw [outstanding_concat] at h
    cases hes : outstanding es with
    | none =>
      rw [hes] at h
      cases h
    | some held' =>
      rw [hes] at h
      cases e with
      | missing name =>
        cases h
        exact (ih hes).append (.missing .nil)
      | handedOut name blob =>
        cases h
        exact .hold (ih hes) .nil
      | returned blob =>
        cases Event.apply_returned h
        exact (ih hes).returned

theorem settle_of_bracketed {es : List (Event B)} (h : Bracketed es) (held : List B) :
    settle held es = some held := by
  induction h generalizing held with
  | nil => rfl
  | missing _ ih => exact ih held
  | pair _ _ ihInner ih => simp [settle_cons, settle_append, Event.apply, ihInner, ih]

theorem outstanding_of_nested {es : List (Event B)} {held : List B} (h : Nested held es) :
    outstanding es = some held := by
  induction h with
  | closed hes => exact settle_of_bracketed hes []
  | hold _ later ih =>
    rw [outstanding_append, ih]
    exact settle_of_bracketed later _

theorem outstanding_eq_some_iff {es : List (Event B)} {held : List B} :
    outstanding es = some held ↔ Nested held es :=
  ⟨nested_of_outstanding, outstanding_of_nested⟩

theorem outstanding_of_append {es ds : List (Event B)} {held : List B}
    (h : outstanding (es ++ ds) = some held) : ∃ held', outstanding es = some held' := by
  rw [outstanding_append] at h
  cases hes : outstanding es with
  | none =>
    rw [hes] at h
    cases h
  | some held' => exact ⟨held', rfl⟩

end Outstanding

theorem Nested.of_append {held : List B} {es ds : List (Event B)} (h : Nested held (es ++ ds)) :
    ∃ held', Nested held' es := by
  classical
  obtain ⟨held', hes⟩ := outstanding_of_append (outstanding_eq_some_iff.2 h)
  exact ⟨held', outstanding_eq_some_iff.1 hes⟩

/-- The blobs held account for all that was handed out and has not come back. -/
structure Custody (held : List B) (es : List (Event B)) : Prop where
  account : (blobsOut es).Perm (blobsBack es ++ held)
  covered : ∀ before, before <+: es → (blobsBack before).Subperm (blobsOut before)
  once : (blobsOut es).Nodup → (blobsBack es).Nodup
  nested : Nested held es

theorem Nested.custody {held : List B} {es : List (Event B)} (h : Nested held es) :
    Custody held es where
  account := h.perm
  covered := by
    intro before hbefore
    obtain ⟨later, rfl⟩ := hbefore
    obtain ⟨held', hheld⟩ := h.of_append
    exact (List.sublist_append_left _ held').subperm.trans hheld.perm.symm.subperm
  once := by
    intro distinct
    exact (List.nodup_append.1 (h.perm.nodup distinct)).1
  nested := h

end FalconPmu.Loader
