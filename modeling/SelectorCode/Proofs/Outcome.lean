/-!
# Outcomes

Small facts about computations that end with a value or with an error.

## Main Statements

* `exists_of_map_eq_ok`, `eq_error_of_map_eq_error`: mapping values, the other way round.
* `eq_error_of_bind_eq_error`: a sequence of two fails in the first or in the second.
* `eq_ok_of_mapError_eq_ok`, `exists_of_mapError_eq_error`: renaming errors, the other way round.
* `eq_ok_of_toOption_eq_some`: an outcome is told from its value.
-/

namespace SelectorCode

variable {ε ζ α β : Type}

/-- What is mapped successfully has succeeded before. -/
theorem exists_of_map_eq_ok {f : α → β} {x : Except ε α} {b : β} (h : x.map f = .ok b) :
    ∃ a, x = .ok a ∧ f a = b := by
  cases x with
  | error e => cases h
  | ok a => exact ⟨a, rfl, Except.ok.inj h⟩

/-- What is mapped to an error has been that error before. -/
theorem eq_error_of_map_eq_error {f : α → β} {x : Except ε α} {e : ε} (h : x.map f = .error e) :
    x = .error e := by
  cases x with
  | error d => exact congrArg Except.error (Except.error.inj h)
  | ok a => cases h

/-- Two computations in a row fail in the first, or in the second after the first has succeeded. -/
theorem eq_error_of_bind_eq_error {f : α → Except ε β} {x : Except ε α} {e : ε}
    (h : x.bind f = .error e) : x = .error e ∨ ∃ a, x = .ok a ∧ f a = .error e := by
  cases x with
  | error d => exact Or.inl (congrArg Except.error (Except.error.inj h))
  | ok a => exact Or.inr ⟨a, rfl, h⟩

/-- Renaming errors leaves what has succeeded. -/
theorem eq_ok_of_mapError_eq_ok {f : ε → ζ} {x : Except ε α} {a : α} (h : x.mapError f = .ok a) :
    x = .ok a := by
  cases x with
  | error e => cases h
  | ok b => exact congrArg Except.ok (Except.ok.inj h)

/-- An error under another name has been an error before. -/
theorem exists_of_mapError_eq_error {f : ε → ζ} {x : Except ε α} {d : ζ}
    (h : x.mapError f = .error d) : ∃ e, x = .error e ∧ f e = d := by
  cases x with
  | error e => exact ⟨e, rfl, Except.error.inj h⟩
  | ok a => cases h

/-- An outcome is told from its value, where values can be compared and errors need not be. -/
theorem eq_ok_of_toOption_eq_some {x : Except ε α} {a : α} (h : x.toOption = some a) :
    x = .ok a := by
  cases x with
  | error e => cases h
  | ok b => exact congrArg Except.ok (Option.some.inj h)

end SelectorCode
