/-! # Computations that may fail -/

namespace RestModel

theorem bind_eq_ok_iff {computed : Except ε α} {next : α → Except ε β} {result : β} :
    computed >>= next = .ok result ↔ ∃ value, computed = .ok value ∧ next value = .ok result := by
  cases computed <;> simp [bind, Except.bind]

theorem map_eq_ok_iff {computed : Except ε α} {change : α → β} {result : β} :
    computed.map change = .ok result ↔ ∃ value, computed = .ok value ∧ change value = result := by
  cases computed <;> simp [Except.map]

theorem map_eq_error_iff {computed : Except ε α} {change : α → β} {problem : ε} :
    computed.map change = .error problem ↔ computed = .error problem := by
  cases computed <;> simp [Except.map]

theorem eq_ok_of_toOption {computed : Except ε α} {result : α}
    (known : computed.toOption = some result) : computed = .ok result := by
  cases computed with
  | error failure => cases known
  | ok value => exact congrArg _ (Option.some.inj known)

/-- A result about which something is known. -/
theorem exists_of_toOption_map {computed : Except ε α} {read : α → β} {value : β}
    (known : computed.toOption.map read = some value) :
    ∃ result, computed = .ok result ∧ read result = value := by
  rcases Option.map_eq_some_iff.mp known with ⟨result, isResult, isRead⟩
  exact ⟨result, eq_ok_of_toOption isResult, isRead⟩

end RestModel
