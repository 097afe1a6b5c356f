/-!
# Results that are not errors

A computation in steps gives a value exactly if each of its steps does.
-/

namespace TypedContainers

theorem bind_eq_ok_iff {ε α β : Type} {result : Except ε α} {next : α → Except ε β}
    {value : β} :
    result.bind next = .ok value ↔ ∃ first, result = .ok first ∧ next first = .ok value := by
  cases result with
  | error e => simp [Except.bind]
  | ok first => simp [Except.bind]

theorem map_eq_ok_iff {ε α β : Type} {result : Except ε α} {f : α → β} {value : β} :
    result.map f = .ok value ↔ ∃ first, result = .ok first ∧ f first = value := by
  cases result with
  | error e => simp [Except.map]
  | ok first => simp [Except.map]

@[simp]
theorem mapError_error {ε δ α : Type} (f : ε → δ) (e : ε) :
    (Except.error e : Except ε α).mapError f = .error (f e) := rfl

@[simp]
theorem mapError_ok {ε δ α : Type} (f : ε → δ) (value : α) :
    (Except.ok value : Except ε α).mapError f = .ok value := rfl

theorem mapError_eq_ok_iff {ε δ α : Type} {result : Except ε α} {f : ε → δ} {value : α} :
    result.mapError f = .ok value ↔ result = .ok value := by
  cases result with
  | error e => simp
  | ok first => simp

theorem toOption_eq_some_iff {ε α : Type} {result : Except ε α} {value : α} :
    result.toOption = some value ↔ result = .ok value := by
  cases result with
  | error e => simp [Except.toOption]
  | ok first => simp [Except.toOption]

end TypedContainers
