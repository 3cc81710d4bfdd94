import FalconPmu.Action
import Mathlib.Data.List.Forall2

namespace FalconPmu

structure Report (ξ : Type) where
  step : ξ
  result : Except Fault Unit
  journal : List Notice

structure Transcript (ξ σ : Type) where
  reports : List (Report ξ)
  state : σ

variable {μ ξ σ : Type}

def Outcome.transcript (o : Outcome σ Unit) (x : ξ) : Transcript ξ σ :=
  ⟨[⟨x, o.result, o.journal⟩], o.state⟩

def transcribe (act : μ → σ → Transcript ξ σ) : List μ → σ → Transcript ξ σ
  | [], s => ⟨[], s⟩
  | m :: ms, s =>
    ⟨(act m s).reports ++ (transcribe act ms (act m s).state).reports,
      (transcribe act ms (act m s).state).state⟩

theorem transcribe_append (act : μ → σ → Transcript ξ σ) (ms ns : List μ) (s : σ) :
    transcribe act (ms ++ ns) s =
      ⟨(transcribe act ms s).reports ++ (transcribe act ns (transcribe act ms s).state).reports,
        (transcribe act ns (transcribe act ms s).state).state⟩ := by
  induction ms generalizing s with
  | nil => rfl
  | cons m ms ih => simp [transcribe, ih]

section Alike

variable {α β ν τ : Type} {rel : σ → τ → Prop}

structure Outcome.Alike (rel : σ → τ → Prop) (o : Outcome σ α) (o' : Outcome τ α) : Prop where
  result : o.result = o'.result
  journal : o.journal = o'.journal
  state : rel o.state o'.state

structure Transcript.Alike (rel : σ → τ → Prop) (t : Transcript ξ σ) (t' : Transcript ξ τ) :
    Prop where
  reports : t.reports = t'.reports
  state : rel t.state t'.state

theorem Action.note_alike (n : Notice) {s : σ} {t : τ} (h : rel s t) :
    (note n s).Alike rel (note n t) := ⟨rfl, rfl, h⟩

theorem Action.bind_alike {x : Action σ α} {y : Action τ α} {f : α → Action σ β}
    {g : α → Action τ β} {s : σ} {t : τ} (hx : (x s).Alike rel (y t))
    (hf : ∀ a s t, rel s t → (f a s).Alike rel (g a t)) :
    ((x >>= f) s).Alike rel ((y >>= g) t) := by
  obtain ⟨hresult, hjournal, hstate⟩ := hx
  rw [bind_apply, bind_apply]
  generalize x s = o at hresult hjournal hstate ⊢
  generalize y t = o' at hresult hjournal hstate ⊢
  obtain ⟨r, s', js⟩ := o
  obtain ⟨r', t', js'⟩ := o'
  cases hresult
  cases hjournal
  cases r with
  | error e => exact ⟨rfl, rfl, hstate⟩
  | ok a =>
    obtain ⟨hresult, hjournal, hrest⟩ := hf a s' t' hstate
    exact ⟨hresult, congrArg (js ++ ·) hjournal, hrest⟩

theorem Outcome.Alike.transcript {o : Outcome σ Unit} {o' : Outcome τ Unit} (h : o.Alike rel o')
    (x : ξ) : (o.transcript x).Alike rel (o'.transcript x) where
  reports := by rw [Outcome.transcript, Outcome.transcript, h.result, h.journal]
  state := h.state

theorem transcribe_alike {act : μ → σ → Transcript ξ σ} {act' : ν → τ → Transcript ξ τ}
    {pair : μ → ν → Prop}
    (move : ∀ m n, pair m n → ∀ s t, rel s t → (act m s).Alike rel (act' n t)) {ms : List μ}
    {ns : List ν} (hms : List.Forall₂ pair ms ns) {s : σ} {t : τ} (h : rel s t) :
    (transcribe act ms s).Alike rel (transcribe act' ns t) := by
  induction hms generalizing s t with
  | nil => exact ⟨rfl, h⟩
  | cons hm _ ih =>
    have head := move _ _ hm s t h
    have tail := ih head.state
    exact ⟨congrArg₂ (· ++ ·) head.reports tail.reports, tail.state⟩

end Alike

theorem transcribe_preserves {act : μ → σ → Transcript ξ σ} {P : σ → Prop} {ms : List μ}
    (move : ∀ m ∈ ms, ∀ s, P s → P (act m s).state) {s : σ} (hs : P s) :
    P (transcribe act ms s).state := by
  induction ms generalizing s with
  | nil => exact hs
  | cons m ms ih =>
    have hm := move m List.mem_cons_self s hs
    exact ih (fun n hn => move n (List.mem_cons_of_mem m hn)) hm

end FalconPmu
