import Mathlib.Logic.Basic
import Mathlib.Data.List.Forall2

/-!
# Outcomes of Go calls

A shallow embedding of Go code needs more than `Except`: a Go function returns a value or an
`error`, but it may also *panic* (an index or a slice bound out of range, a `make` with a
negative length), and a recursive function may not return at all.  `Outcome ε α` records the
four ends:

* `ok a` — the function returned `a` (and a `nil` error);
* `error e` — the function returned the error `e`;
* `panic r` — the Go runtime panicked with reason `r`;
* `exhausted` — the model's fuel ran out before the Go recursion returned.

`Outcome ε` is a monad whose bind propagates the three abnormal ends unchanged, which is how a
Go function body behaves when every call is followed by `if err != nil { return ..., err }`
and panics unwind the stack.  `StOutcome σ ε` adds explicit state that survives abnormal ends,
so that a `defer` (run on every exit) can be modelled.

Results: the bind simp set (`bind_ok`, `bind_error`, …), the inversion lemma `bind_eq_ok`, and
`IsPanic.bind` — a computation that panics makes every composition with it panic.
-/

set_option autoImplicit false

namespace GoLib

/-- How a call of a Go function ends, as the model sees it. -/
inductive Outcome (ε α : Type) where
  | ok (a : α)
  | error (e : ε)
  | panic (reason : String)
  | exhausted
  deriving DecidableEq, Repr

namespace Outcome

variable {ε α β γ : Type}

/-- Sequencing: the second computation runs only after a normal return. -/
def bind : Outcome ε α → (α → Outcome ε β) → Outcome ε β
  | ok a, f => f a
  | error e, _ => error e
  | panic r, _ => panic r
  | exhausted, _ => exhausted

instance : Monad (Outcome ε) where
  pure := ok
  bind := bind

@[simp] theorem pure_eq (a : α) : (pure a : Outcome ε α) = ok a := rfl

@[simp] theorem bind_ok (a : α) (f : α → Outcome ε β) : (ok a >>= f) = f a := rfl

@[simp] theorem bind_error (e : ε) (f : α → Outcome ε β) : (error e >>= f) = error e := rfl

@[simp] theorem bind_panic (r : String) (f : α → Outcome ε β) : (panic r >>= f) = panic r := rfl

@[simp] theorem bind_exhausted (f : α → Outcome ε β) :
    ((exhausted : Outcome ε α) >>= f) = exhausted := rfl

/-- A bind returns normally exactly when both parts do. -/
theorem bind_eq_ok {x : Outcome ε α} {f : α → Outcome ε β} {b : β} :
    (x >>= f) = ok b ↔ ∃ a, x = ok a ∧ f a = ok b := by
  cases x <;> simp

instance : LawfulMonad (Outcome ε) :=
  LawfulMonad.mk' (Outcome ε) (fun x => by cases x <;> rfl) (fun _ _ => rfl)
    (fun x _ _ => by cases x <;> rfl)

theorem mapM_ok {f : α → Outcome ε β} {P : α → β → Prop} :
    ∀ {l : List α}, (∀ a ∈ l, ∃ b, f a = ok b ∧ P a b) →
      ∃ bs, l.mapM f = ok bs ∧ List.Forall₂ P l bs
  | [], _ => ⟨[], rfl, .nil⟩
  | a :: l, h => by
    obtain ⟨b, hb, hp⟩ := h a (by simp)
    have hl : ∀ a' ∈ l, ∃ b, f a' = ok b ∧ P a' b := fun a' ha' => h a' (by simp [ha'])
    obtain ⟨bs, hbs, hps⟩ := mapM_ok hl
    exact ⟨b :: bs, by simp [List.mapM_cons, hb, hbs], .cons hp hps⟩

/-! ### More fuel, without state -/

/-- `y` is `x` unless `x` ran out of fuel. -/
def Extends (x y : Outcome ε α) : Prop := x ≠ exhausted → y = x

theorem Extends.refl (x : Outcome ε α) : x.Extends x := fun _ => rfl

theorem exhausted_extends (y : Outcome ε α) : (exhausted : Outcome ε α).Extends y :=
  fun h => absurd rfl h

theorem Extends.bind {x y : Outcome ε α} {f g : α → Outcome ε β} (hxy : x.Extends y)
    (hfg : ∀ a, (f a).Extends (g a)) : (x >>= f).Extends (y >>= g) := by
  intro hne
  cases x with
  | ok a =>
    rw [hxy (by simp)]
    exact hfg a hne
  | error e => rw [hxy (by simp)]; rfl
  | panic r => rw [hxy (by simp)]; rfl
  | exhausted => exact absurd rfl hne

theorem Extends.mapM {f g : α → Outcome ε β} (hfg : ∀ a, (f a).Extends (g a)) (l : List α) :
    (l.mapM f).Extends (l.mapM g) := by
  induction l with
  | nil => exact Extends.refl _
  | cons a l ih =>
    simp only [List.mapM_cons]
    exact (hfg a).bind fun _ => ih.bind fun _ => Extends.refl _

/-- `errors.Wrap` of an outcome: the error transformed, the other ends unchanged. -/
def mapError (g : ε → ε) : Outcome ε α → Outcome ε α
  | ok a => ok a
  | error e => error (g e)
  | panic r => panic r
  | exhausted => exhausted

/-- A call that cannot panic nor run out, as an outcome. -/
def ofExcept : Except ε α → Outcome ε α
  | .ok a => ok a
  | .error e => error e

@[simp] theorem mapError_ok (g : ε → ε) (a : α) : (ok a : Outcome ε α).mapError g = ok a := rfl

@[simp] theorem mapError_error (g : ε → ε) (e : ε) :
    (error e : Outcome ε α).mapError g = error (g e) := rfl

@[simp] theorem mapError_panic (g : ε → ε) (r : String) :
    (panic r : Outcome ε α).mapError g = panic r := rfl

@[simp] theorem ofExcept_ok (a : α) : ofExcept (.ok a : Except ε α) = ok a := rfl

@[simp] theorem ofExcept_error (e : ε) : ofExcept (.error e : Except ε α) = error e := rfl

/-- The outcome is a panic. -/
def IsPanic : Outcome ε α → Prop
  | panic _ => True
  | _ => False

instance (x : Outcome ε α) : Decidable x.IsPanic :=
  match x with
  | panic _ => isTrue trivial
  | ok _ | error _ | exhausted => isFalse id

/-- The outcome is a normal return or an error: the Go call returned. -/
def Returned : Outcome ε α → Prop
  | ok _ => True
  | error _ => True
  | _ => False

instance (x : Outcome ε α) : Decidable x.Returned :=
  match x with
  | ok _ | error _ => isTrue trivial
  | panic _ | exhausted => isFalse id

@[simp] theorem isPanic_panic (r : String) : (panic r : Outcome ε α).IsPanic := trivial

@[simp] theorem not_isPanic_ok (a : α) : ¬ (ok a : Outcome ε α).IsPanic := id

@[simp] theorem not_isPanic_error (e : ε) : ¬ (error e : Outcome ε α).IsPanic := id

/-- A computation that panics makes every composition with it panic. -/
theorem IsPanic.bind {x : Outcome ε α} (h : x.IsPanic) (f : α → Outcome ε β) :
    (x >>= f).IsPanic := by
  cases x <;> simp_all [IsPanic]

end Outcome

/-- A Go computation over an explicit state `σ` that the abnormal ends keep: after an error
or a panic the state is still observable (and a `defer` still runs on it). -/
def StOutcome (σ ε α : Type) : Type := σ → Outcome ε α × σ

namespace StOutcome

variable {σ ε α β : Type}

/-- Sequencing over the state. -/
def bind (x : StOutcome σ ε α) (f : α → StOutcome σ ε β) : StOutcome σ ε β := fun s =>
  match x s with
  | (.ok a, s') => f a s'
  | (.error e, s') => (.error e, s')
  | (.panic r, s') => (.panic r, s')
  | (.exhausted, s') => (.exhausted, s')

instance : Monad (StOutcome σ ε) where
  pure a := fun s => (.ok a, s)
  bind := bind

/-- The state. -/
def get : StOutcome σ ε σ := fun s => (.ok s, s)

/-- Replace the state. -/
def set (s : σ) : StOutcome σ ε Unit := fun _ => (.ok (), s)

/-- Change the state. -/
def modify (f : σ → σ) : StOutcome σ ε Unit := fun s => (.ok (), f s)

/-- Return an error. -/
def throw (e : ε) : StOutcome σ ε α := fun s => (.error e, s)

/-- Stop for want of fuel. -/
def exhausted : StOutcome σ ε α := fun s => (.exhausted, s)

/-- Lift a stateless outcome. -/
def lift (x : Outcome ε α) : StOutcome σ ε α := fun s => (x, s)

/-- `defer f()` at the start of a Go function body `x`: `f` changes the state on every exit,
normal or not. -/
def withDefer (x : StOutcome σ ε α) (f : σ → σ) : StOutcome σ ε α := fun s =>
  let r := x s
  (r.1, f r.2)

/-- Transform the error of an abnormal end (a Go `return nil, wrap(err)`). -/
def mapError (x : StOutcome σ ε α) (g : ε → ε) : StOutcome σ ε α := fun s =>
  match x s with
  | (.error e, s') => (.error (g e), s')
  | r => r

@[simp] theorem pure_run (a : α) (s : σ) : (pure a : StOutcome σ ε α) s = (.ok a, s) := rfl

@[simp] theorem get_run (s : σ) : (get : StOutcome σ ε σ) s = (.ok s, s) := rfl

@[simp] theorem set_run (s t : σ) : (set t : StOutcome σ ε Unit) s = (.ok (), t) := rfl

@[simp] theorem modify_run (f : σ → σ) (s : σ) :
    (modify f : StOutcome σ ε Unit) s = (.ok (), f s) := rfl

@[simp] theorem throw_run (e : ε) (s : σ) : (throw e : StOutcome σ ε α) s = (.error e, s) := rfl

@[simp] theorem exhausted_run (s : σ) : (exhausted : StOutcome σ ε α) s = (.exhausted, s) := rfl

@[simp] theorem lift_run (x : Outcome ε α) (s : σ) : (lift x : StOutcome σ ε α) s = (x, s) := rfl

@[simp] theorem withDefer_run (x : StOutcome σ ε α) (f : σ → σ) (s : σ) :
    withDefer x f s = ((x s).1, f (x s).2) := rfl

theorem bind_run (x : StOutcome σ ε α) (f : α → StOutcome σ ε β) (s : σ) :
    (x >>= f) s = bind x f s := rfl

instance : LawfulMonad (StOutcome σ ε) := LawfulMonad.mk' (StOutcome σ ε)
  (fun x => funext fun s => by
    show StOutcome.bind x (fun a s => (.ok (id a), s)) s = x s
    unfold StOutcome.bind
    rcases x s with ⟨_ | _ | _ | _, s'⟩ <;> rfl)
  (fun _ _ => rfl)
  (fun x f g => funext fun s => by
    show StOutcome.bind (StOutcome.bind x f) g s = StOutcome.bind x (fun a => StOutcome.bind (f a) g) s
    unfold StOutcome.bind
    rcases x s with ⟨_ | _ | _ | _, s'⟩ <;> rfl)

@[simp] theorem get_bind_run (f : σ → StOutcome σ ε β) (s : σ) : (get >>= f) s = f s s := rfl

@[simp] theorem modify_bind_run (g : σ → σ) (f : Unit → StOutcome σ ε β) (s : σ) :
    (modify g >>= f) s = f () (g s) := rfl

@[simp] theorem set_bind_run (t : σ) (f : Unit → StOutcome σ ε β) (s : σ) :
    (set t >>= f) s = f () t := rfl

@[simp] theorem pure_bind_run (a : α) (f : α → StOutcome σ ε β) (s : σ) :
    (pure a >>= f) s = f a s := rfl

@[simp] theorem mapError_pure (a : α) (g : ε → ε) :
    mapError (pure a : StOutcome σ ε α) g = pure a := rfl

@[simp] theorem throw_bind_run (e : ε) (f : α → StOutcome σ ε β) (s : σ) :
    (throw e >>= f) s = (.error e, s) := rfl

@[simp] theorem bind_run_ok {x : StOutcome σ ε α} {f : α → StOutcome σ ε β} {s s' : σ} {a : α}
    (h : x s = (.ok a, s')) : (x >>= f) s = f a s' := by
  simp [bind_run, bind, h]

/-! ### Running out of fuel

A computation that runs out of fuel ends the whole composition: what follows it never runs,
an error transformation does not apply, and a `defer` changes only the state. -/

theorem bind_run_exhausted {x : StOutcome σ ε α} {f : α → StOutcome σ ε β} {s : σ}
    (h : (x s).1 = .exhausted) : ((x >>= f) s).1 = .exhausted := by
  rw [bind_run, bind]
  split <;> simp_all

theorem mapError_run_exhausted {x : StOutcome σ ε α} {g : ε → ε} {s : σ}
    (h : (x s).1 = .exhausted) : (mapError x g s).1 = .exhausted := by
  unfold mapError
  split <;> simp_all

theorem withDefer_run_exhausted {x : StOutcome σ ε α} {f : σ → σ} {s : σ}
    (h : (x s).1 = .exhausted) : (withDefer x f s).1 = .exhausted := h

/-! ### More fuel

A model that takes fuel is run with more fuel by replacing a computation `x` with one that
agrees with `x` wherever `x` does not run out: `x.Extends y`.  The relation is preserved by
every combinator, so a fuel-indexed family whose one step maps extending walkers to extending
walkers is monotone in its fuel. -/

/-- `y` returns what `x` returns, from every state where `x` does not run out of fuel. -/
def Extends (x y : StOutcome σ ε α) : Prop := ∀ s, (x s).1 ≠ .exhausted → y s = x s

theorem Extends.refl (x : StOutcome σ ε α) : x.Extends x := fun _ _ => rfl

theorem Extends.trans {x y z : StOutcome σ ε α} (hxy : x.Extends y) (hyz : y.Extends z) :
    x.Extends z := by
  intro s hs
  have hy := hxy s hs
  rw [hyz s (by rw [hy]; exact hs), hy]

theorem exhausted_extends (y : StOutcome σ ε α) : (exhausted : StOutcome σ ε α).Extends y := by
  intro s hs
  exact absurd rfl hs

theorem Extends.bind {x y : StOutcome σ ε α} {f g : α → StOutcome σ ε β} (hxy : x.Extends y)
    (hfg : ∀ a, (f a).Extends (g a)) : (x >>= f).Extends (y >>= g) := by
  intro s hs
  have hx : (x s).1 ≠ .exhausted := fun h => hs (bind_run_exhausted h)
  show StOutcome.bind y g s = StOutcome.bind x f s
  unfold StOutcome.bind
  rw [hxy s hx]
  split
  · rename_i a s' hxs
    have hf : (f a s').1 ≠ .exhausted := by
      rw [bind_run, StOutcome.bind, hxs] at hs
      exact hs
    exact hfg a s' hf
  all_goals rfl

theorem Extends.mapError {x y : StOutcome σ ε α} (hxy : x.Extends y) (g : ε → ε) :
    (mapError x g).Extends (mapError y g) := by
  intro s hs
  have hx : (x s).1 ≠ .exhausted := fun h => hs (mapError_run_exhausted h)
  simp only [StOutcome.mapError, hxy s hx]

theorem Extends.withDefer {x y : StOutcome σ ε α} (hxy : x.Extends y) (f : σ → σ) :
    (withDefer x f).Extends (withDefer y f) := by
  intro s hs
  simp only [withDefer_run] at hs ⊢
  rw [hxy s hs]

end StOutcome

end GoLib
