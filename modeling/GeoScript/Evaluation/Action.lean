import GeoScript.Event

/-! # Actions

An *action* works on a state, reports events, and ends with an answer or a fault. A fault ends the
action it happens in and what comes after, but takes back neither changes of the state nor events.

A `Traced` answer is what an action without a state leaves behind.

* `Action.bind_of_error`: after a fault nothing more happens.
* `Action.bind_of_ok`: after an answer the next action goes on from the state that was left.
* `Action.answer_bind`, `Action.state_bind`: both, said of the answer and of the state. -/

namespace GeoScript

/-- An answer or a fault, with the events on the way to it. -/
structure Traced (α : Type) where
  answer : Except Fault α
  log : Log

namespace Traced

variable {α β : Type}

/-- An answer, with nothing to report. -/
def ok (a : α) : Traced α := ⟨.ok a, []⟩

/-- A fault, with nothing to report. -/
def fail (f : Fault) : Traced α := ⟨.error f, []⟩

/-- An answer or a fault, with nothing to report. -/
def of (answer : Except Fault α) : Traced α := ⟨answer, []⟩

/-- An event before everything else. -/
def after (e : Event) (t : Traced α) : Traced α := ⟨t.answer, e :: t.log⟩

end Traced

/-- What an action leaves behind. -/
structure Outcome (σ α : Type) where
  answer : Except Fault α
  state : σ
  log : Log

/-- Work on a state. -/
def Action (σ α : Type) : Type := σ → Outcome σ α

namespace Action

variable {σ α β : Type}

/-- Nothing but an answer. -/
def pure (a : α) : Action σ α := fun s => ⟨.ok a, s, []⟩

/-- Nothing but a fault. -/
def fail (f : Fault) : Action σ α := fun s => ⟨.error f, s, []⟩

/-- Nothing but an event. -/
def emit (e : Event) : Action σ Unit := fun s => ⟨.ok (), s, [e]⟩

/-- The state. -/
def get : Action σ σ := fun s => ⟨.ok s, s, []⟩

/-- Work without a state. -/
def ofTraced (t : Traced α) : Action σ α := fun s => ⟨t.answer, s, t.log⟩

/-- An answer or a fault. -/
def ofExcept (answer : Except Fault α) : Action σ α := fun s => ⟨answer, s, []⟩

/-- One action, and with its answer the next. -/
def bind (x : Action σ α) (f : α → Action σ β) : Action σ β := fun s =>
  match x s with
  | ⟨.error fault, t, log⟩ => ⟨.error fault, t, log⟩
  | ⟨.ok a, t, log⟩ =>
    let next := f a t
    ⟨next.answer, next.state, log ++ next.log⟩

instance : Monad (Action σ) where
  pure := Action.pure
  bind := Action.bind

/-- A change of the state. -/
def modify (f : σ → σ) : Action σ Unit := fun s => ⟨.ok (), f s, []⟩

/-- Work on a part of the state. -/
def onPart {τ : Type} (part : τ → σ) (put : τ → σ → τ) (x : Action σ α) : Action τ α := fun t =>
  let done := x (part t)
  ⟨done.answer, put t done.state, done.log⟩

@[simp] theorem pure_apply (a : α) (s : σ) :
    (Pure.pure a : Action σ α) s = ⟨.ok a, s, []⟩ := rfl

@[simp] theorem fail_apply (f : Fault) (s : σ) : (fail f : Action σ α) s = ⟨.error f, s, []⟩ := rfl

@[simp] theorem emit_apply (e : Event) (s : σ) : emit e s = ⟨.ok (), s, [e]⟩ := rfl

@[simp] theorem get_apply (s : σ) : get s = ⟨.ok s, s, []⟩ := rfl

@[simp] theorem modify_apply (f : σ → σ) (s : σ) : modify f s = ⟨.ok (), f s, []⟩ := rfl

@[simp] theorem ofTraced_apply (t : Traced α) (s : σ) :
    (ofTraced t : Action σ α) s = ⟨t.answer, s, t.log⟩ := rfl

@[simp] theorem ofExcept_apply (answer : Except Fault α) (s : σ) :
    (ofExcept answer : Action σ α) s = ⟨answer, s, []⟩ := rfl

theorem bind_of_error {x : Action σ α} {s : σ} {fault : Fault} (f : α → Action σ β)
    (h : (x s).answer = .error fault) :
    (x >>= f) s = ⟨.error fault, (x s).state, (x s).log⟩ := by
  change Action.bind x f s = _
  unfold Action.bind
  rcases hx : x s with ⟨answer, t, log⟩
  rw [hx] at h
  cases h
  rfl

theorem bind_of_ok {x : Action σ α} {s : σ} {a : α} (f : α → Action σ β)
    (h : (x s).answer = .ok a) :
    (x >>= f) s =
      ⟨(f a (x s).state).answer, (f a (x s).state).state,
        (x s).log ++ (f a (x s).state).log⟩ := by
  change Action.bind x f s = _
  unfold Action.bind
  rcases hx : x s with ⟨answer, t, log⟩
  rw [hx] at h
  cases h
  rfl

theorem answer_bind (x : Action σ α) (f : α → Action σ β) (s : σ) :
    ((x >>= f) s).answer = (x s).answer.bind fun a => (f a (x s).state).answer := by
  cases h : (x s).answer with
  | error fault => rw [bind_of_error f h]; rfl
  | ok a => rw [bind_of_ok f h]; rfl

theorem state_bind (x : Action σ α) (f : α → Action σ β) (s : σ) :
    ((x >>= f) s).state =
      match (x s).answer with
      | .error _ => (x s).state
      | .ok a => (f a (x s).state).state := by
  cases h : (x s).answer with
  | error fault => rw [bind_of_error f h]
  | ok a => rw [bind_of_ok f h]

end Action

end GeoScript
