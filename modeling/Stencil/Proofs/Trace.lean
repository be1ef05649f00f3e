import Stencil.Trace

namespace Stencil.Traced

variable {σ ρ α β : Type} {s s' : σ} {before : List Signal}

theorem bind_eq {step : Traced σ α} {a : α} (done : step s = ((a, s'), before))
    (next : α → Traced σ β) :
    (step >>= next) s = ((next a s').1, before ++ (next a s').2) := by
  show Traced.bind step next s = _
  unfold Traced.bind
  rw [done]

@[simp]
theorem pure_apply (a : α) : (Pure.pure a : Traced σ α) s = ((a, s), []) := rfl

@[simp]
theorem bind_apply (step : Traced σ α) (next : α → Traced σ β) :
    (step >>= next) s =
      ((next (step s).1.1 (step s).1.2).1, (step s).2 ++ (next (step s).1.1 (step s).1.2).2) := rfl

@[simp]
theorem signal_apply (signal : Signal) : Traced.signal signal s = (((), s), [signal]) := rfl

@[simp]
theorem emit_apply (e : Event) : emit e s = (((), s), [.event e]) := rfl

@[simp]
theorem onFirst_apply (step : Traced σ α) (r : ρ) :
    onFirst step (s, r) = (((step s).1.1, (step s).1.2, r), (step s).2) := rfl

theorem get_bind (next : σ → Traced σ β) : (get >>= next) s = next s s := rfl

theorem modify_bind (change : σ → σ) (next : Unit → Traced σ β) :
    (modify change >>= next) s = next () (change s) := rfl

theorem onSecond_eq {step : Traced σ α} {a : α} (done : step s = ((a, s'), before)) (r : ρ) :
    onSecond step (r, s) = ((a, r, s'), before) := by
  simp only [onSecond, done]

end Stencil.Traced
