/-! # Results that may be failures

The lemmas that take a computation of an `Except` apart into its parts.
-/

namespace QuadControl.Lib.Except

variable {ε α β : Type}

/-- What a sequence returns, its second part returns of what the first returns. -/
theorem bind_eq_ok {first : Except ε α} {rest : α → Except ε β} {result : β} :
    (first >>= rest) = .ok result ↔ ∃ value, first = .ok value ∧ rest value = .ok result := by
  cases first with
  | error failure =>
      constructor
      · intro same
        cases same
      · rintro ⟨value, same, -⟩
        cases same
  | ok value =>
      constructor
      · intro same
        exact ⟨value, rfl, same⟩
      · rintro ⟨value', same, returned⟩
        cases same
        exact returned

/-- What a check is followed by returns only if the check passes. -/
theorem check_bind_eq_ok {check : Except ε Unit} {rest : Unit → Except ε β} {result : β} :
    (check >>= rest) = .ok result ↔ check = .ok () ∧ rest () = .ok result := by
  rw [bind_eq_ok]
  constructor
  · intro passed
    obtain ⟨⟨⟩, first, returned⟩ := passed
    exact ⟨first, returned⟩
  · intro passed
    exact ⟨(), passed⟩

@[simp] theorem pure_eq_ok {value result : α} :
    (pure value : Except ε α) = .ok result ↔ value = result := by
  constructor
  · intro same
    exact Except.ok.inj same
  · intro same
    exact congrArg Except.ok same

/-- A guard lets through just what meets its condition. -/
theorem guard_eq_ok {condition : Prop} [Decidable condition] {failure : ε} {u : Unit} :
    (if condition then Except.ok () else Except.error failure) = .ok u ↔ condition := by
  split
  · rename_i holds
    exact iff_of_true rfl holds
  · rename_i misses
    exact iff_of_false (fun same => by cases same) misses

theorem toOption_eq_some {result : Except ε α} {value : α} :
    result.toOption = some value ↔ result = .ok value := by
  cases result with
  | error failure => exact iff_of_false nofun nofun
  | ok value' =>
      constructor
      · intro same
        exact congrArg Except.ok (Option.some.inj same)
      · intro same
        exact congrArg some (Except.ok.inj same)

end QuadControl.Lib.Except
