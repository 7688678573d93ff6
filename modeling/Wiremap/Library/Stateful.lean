/-! Computations on a state that may end in an error, the state being kept either
way: how a sequence of calls runs once its first call has. -/
namespace Wiremap.Library.Stateful

variable {ε σ α β : Type u}
variable {x : EStateM ε σ α} {f : α → EStateM ε σ β} {s s' : σ}

theorem bind_ok {a : α} (h : x s = .ok a s') : (x >>= f) s = f a s' := by
  change EStateM.bind x f s = f a s'
  simp [EStateM.bind, h]

theorem bind_error {err : ε} (h : x s = .error err s') : (x >>= f) s = .error err s' := by
  change EStateM.bind x f s = .error err s'
  simp [EStateM.bind, h]

theorem forall_error {P : σ → Prop} {err : ε} (h : x s = .error err s') (hp : P s') :
    ∀ err s', x s = .error err s' → P s' := by
  intro err' s'' h'
  cases h.symm.trans h'
  exact hp

end Wiremap.Library.Stateful
