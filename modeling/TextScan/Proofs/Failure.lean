namespace TextScan

/-!
# Computations that may fail

* `exists_of_bind_eq_ok` and `exists_of_map_eq_ok` take a computation apart that has a result,
  `eq_error_of_map_eq_error` one that fails. By `mapError_eq_ok_iff`, a result does not depend on
  how failures are named.
* `Alike` compares two computations that fail for the same reasons. `Alike.bind` goes on with both
  of them.
-/

variable {ε α β γ δ : Type}

/-- What follows a computation has a result only if the computation has one. -/
theorem exists_of_bind_eq_ok {x : Except ε α} {f : α → Except ε β} {b : β}
    (h : x >>= f = .ok b) : ∃ a, x = .ok a ∧ f a = .ok b := by
  cases x with
  | error e => cases h
  | ok a => exact ⟨a, rfl, h⟩

/-- What is made of a result fails only if the computation does. -/
theorem eq_error_of_map_eq_error {x : Except ε α} {f : α → β} {e : ε}
    (h : x.map f = .error e) : x = .error e := by
  cases x with
  | error err => exact congrArg Except.error (Except.error.inj h)
  | ok a => cases h

theorem exists_of_map_eq_ok {x : Except ε α} {f : α → β} {b : β} (h : x.map f = .ok b) :
    ∃ a, x = .ok a ∧ f a = b := by
  cases x with
  | error e => cases h
  | ok a => exact ⟨a, rfl, Except.ok.inj h⟩

/-- Another name for the failure does not change the result. -/
theorem mapError_eq_ok_iff {x : Except ε α} {f : ε → δ} {a : α} :
    x.mapError f = .ok a ↔ x = .ok a := by
  cases x with
  | error e => exact iff_of_false nofun nofun
  | ok b => exact ⟨fun h => congrArg Except.ok (Except.ok.inj h),
      fun h => congrArg Except.ok (Except.ok.inj h)⟩

/-- What is put in front one after the other is put there together. -/
theorem map_append_map_append (x : Except ε (List α)) (l l' : List α) :
    (x.map (l' ++ ·)).map (l ++ ·) = x.map (l ++ l' ++ ·) := by
  cases x with
  | error e => rfl
  | ok m => exact congrArg Except.ok (List.append_assoc l l' m).symm

/-- Two computations fail for the same reason, or their results are related. -/
inductive Alike (R : α → β → Prop) : Except ε α → Except ε β → Prop
  | error (e : ε) : Alike R (.error e) (.error e)
  | ok {a : α} {b : β} : R a b → Alike R (.ok a) (.ok b)

namespace Alike

variable {R : α → β → Prop} {S : γ → δ → Prop} {x : Except ε α} {y : Except ε β}

/-- A computation whose result is used in two ways. -/
theorem of_bind {z : Except ε γ} {f : γ → Except ε α} {g : γ → Except ε β}
    (h : ∀ c, Alike R (f c) (g c)) : Alike R (z >>= f) (z >>= g) := by
  cases z with
  | error e => exact .error e
  | ok c => exact h c

/-- Computations that go on with related results. -/
theorem bind (h : Alike R x y) {f : α → Except ε γ} {g : β → Except ε δ}
    (hfg : ∀ a b, R a b → Alike S (f a) (g b)) : Alike S (x >>= f) (y >>= g) := by
  cases h with
  | error e => exact .error e
  | ok hab => exact hfg _ _ hab

theorem error_or_ok (h : Alike R x y) :
    (∃ e, x = .error e ∧ y = .error e) ∨ ∃ a b, x = .ok a ∧ y = .ok b ∧ R a b := by
  cases h with
  | error e => exact .inl ⟨e, rfl, rfl⟩
  | ok hab => exact .inr ⟨_, _, rfl, rfl, hab⟩

end Alike

end TextScan
