/-!
# Lists by key

Values in a list, each behind its key. Setting a value removes the earlier one of its key, so a list
that was built by setting holds each key once, the key that was set last at the end.
-/

namespace BrokerConnector

/-- Values by key. -/
abbrev Keyed (κ α : Type) := List (κ × α)

namespace Keyed

variable {κ α : Type} [DecidableEq κ]

/-- The value of a key. -/
def get? (values : Keyed κ α) (key : κ) : Option α :=
  (values.find? (·.1 = key)).map (·.2)

/-- Removes the value of a key. -/
def erase (values : Keyed κ α) (key : κ) : Keyed κ α :=
  values.filter (·.1 ≠ key)

/-- Sets the value of a key. -/
def set (values : Keyed κ α) (key : κ) (value : α) : Keyed κ α :=
  values.erase key ++ [(key, value)]

/-- Removing a key leaves the others alone. -/
theorem get?_erase_of_ne (values : Keyed κ α) {key other : κ} (h : other ≠ key) :
    (values.erase key).get? other = values.get? other := by
  have hp : (fun entry : κ × α =>
      decide (decide (entry.1 ≠ key) = true ∧ decide (entry.1 = other) = true)) =
      fun entry => decide (entry.1 = other) := by
    funext entry
    by_cases he : entry.1 = other <;> simp [he, h]
  unfold get? erase
  rw [List.find?_filter, hp]

/-- A key that was set has its last value. -/
@[simp]
theorem get?_set_self (values : Keyed κ α) (key : κ) (value : α) :
    (values.set key value).get? key = some value := by
  simp [get?, set, erase, List.find?_append, List.find?_eq_none.2]

/-- Setting a key leaves the others alone. -/
theorem get?_set_of_ne (values : Keyed κ α) {key other : κ} (value : α) (h : other ≠ key) :
    (values.set key value).get? other = values.get? other := by
  have hk : ¬ key = other := fun e => h e.symm
  rw [← get?_erase_of_ne values h]
  unfold get? set
  rw [List.find?_append]
  cases (values.erase key).find? (·.1 = other) <;> simp [hk]

end Keyed

end BrokerConnector
