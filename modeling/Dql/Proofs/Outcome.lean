/-!
# Steps that may fail

What a computation with a result says about the steps that it is put together from.
-/

namespace Dql

variable {ε α β : Type} {x : Except ε α}

theorem exists_of_map_eq_ok {f : α → β} {b : β} (h : x.map f = .ok b) :
    ∃ a, x = .ok a ∧ f a = b := by
  cases x with
  | error e => simp [Except.map] at h
  | ok a => exact ⟨a, rfl, Except.ok.inj h⟩

theorem exists_of_bind_eq_ok {f : α → Except ε β} {b : β} (h : x >>= f = .ok b) :
    ∃ a, x = .ok a ∧ f a = .ok b := by
  cases x with
  | error e => simp [bind, Except.bind] at h
  | ok a => exact ⟨a, rfl, h⟩

/-- A result is there if it is the one that may be there. -/
theorem eq_ok_of_toOption {a : α} (h : x.toOption = some a) : x = .ok a := by
  cases x with
  | error e => exact absurd h nofun
  | ok b => exact congrArg Except.ok (Option.some.inj h)

/-- A step that yields more than is needed of it may be looked at before or after the next step. -/
theorem map_bind_eq {α' β' : Type} {f : α → α'} {g : α → Except ε β} {h : β → β'}
    {k : α' → Except ε β'} (hk : ∀ a, (g a).map h = k (f a)) :
    (x >>= g).map h = x.map f >>= k := by
  cases x with
  | error e => rfl
  | ok a => exact hk a

end Dql
