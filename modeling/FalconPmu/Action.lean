import FalconPmu.Journal

namespace FalconPmu

structure Outcome (σ α : Type) where
  result : Except Fault α
  state : σ
  journal : List Notice

def Action (σ α : Type) := σ → Outcome σ α

namespace Action

variable {σ τ α β : Type}

def bind (x : Action σ α) (next : α → Action σ β) : Action σ β := fun s =>
  match x s with
  | ⟨.ok a, s', js⟩ =>
    let o := next a s'
    ⟨o.result, o.state, js ++ o.journal⟩
  | ⟨.error e, s', js⟩ => ⟨.error e, s', js⟩

instance : Monad (Action σ) where
  pure a := fun s => ⟨.ok a, s, []⟩
  bind := bind

def get : Action σ σ := fun s => ⟨.ok s, s, []⟩

def modify (f : σ → σ) : Action σ Unit := fun s => ⟨.ok (), f s, []⟩

def update (f : σ → α × σ) : Action σ α := fun s => ⟨.ok (f s).1, (f s).2, []⟩

def external (f : σ → Except Fault α × σ) : Action σ α := fun s => ⟨(f s).1, (f s).2, []⟩

def ofExcept (r : Except Fault α) : Action σ α := fun s => ⟨r, s, []⟩

def fail (e : Fault) : Action σ α := fun s => ⟨.error e, s, []⟩

def note (n : Notice) : Action σ Unit := fun s => ⟨.ok (), s, [n]⟩

def attempt (x : Action σ α) : Action σ (Except Fault α) := fun s =>
  let o := x s
  ⟨.ok o.result, o.state, o.journal⟩

def noteFailure (x : Action σ α) (n : Fault → Notice) : Action σ α := do
  match ← x.attempt with
  | .ok a => return a
  | .error e =>
    note (n e)
    fail e

def focus (part : σ → τ) (replace : τ → σ → σ) (x : Action τ α) : Action σ α := fun s =>
  let o := x (part s)
  ⟨o.result, replace o.state s, o.journal⟩

@[simp] theorem pure_apply (a : α) (s : σ) : (pure a : Action σ α) s = ⟨.ok a, s, []⟩ := rfl

theorem bind_apply (x : Action σ α) (next : α → Action σ β) (s : σ) :
    (x >>= next) s = match x s with
      | ⟨.ok a, s', js⟩ => ⟨(next a s').result, (next a s').state, js ++ (next a s').journal⟩
      | ⟨.error e, s', js⟩ => ⟨.error e, s', js⟩ := rfl

@[simp] theorem get_apply (s : σ) : get s = ⟨.ok s, s, []⟩ := rfl

@[simp] theorem modify_apply (f : σ → σ) (s : σ) : modify f s = ⟨.ok (), f s, []⟩ := rfl

@[simp] theorem update_apply (f : σ → α × σ) (s : σ) :
    update f s = ⟨.ok (f s).1, (f s).2, []⟩ := rfl

@[simp] theorem external_apply (f : σ → Except Fault α × σ) (s : σ) :
    external f s = ⟨(f s).1, (f s).2, []⟩ := rfl

@[simp] theorem ofExcept_apply (r : Except Fault α) (s : σ) :
    (ofExcept r : Action σ α) s = ⟨r, s, []⟩ := rfl

@[simp] theorem fail_apply (e : Fault) (s : σ) : (fail e : Action σ α) s = ⟨.error e, s, []⟩ := rfl

@[simp] theorem note_apply (n : Notice) (s : σ) : note n s = ⟨.ok (), s, [n]⟩ := rfl

@[simp] theorem attempt_apply (x : Action σ α) (s : σ) :
    x.attempt s = ⟨.ok (x s).result, (x s).state, (x s).journal⟩ := rfl

@[simp] theorem focus_apply (part : σ → τ) (replace : τ → σ → σ) (x : Action τ α) (s : σ) :
    focus part replace x s =
      ⟨(x (part s)).result, replace (x (part s)).state s, (x (part s)).journal⟩ := rfl

end Action

end FalconPmu
