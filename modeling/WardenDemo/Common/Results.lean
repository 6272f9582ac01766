/-!
# Results

When a computation which may raise completes, in terms of its parts: one after the
other, or one for each element of a list.
-/

namespace WardenDemo.Results

variable {ε α β : Type}

@[simp] theorem isOk_ok (value : α) : (Except.ok value : Except ε α).isOk = true := rfl

@[simp] theorem isOk_error (raised : ε) : (Except.error raised : Except ε α).isOk = false := rfl

@[simp] theorem isOk_map (result : Except ε α) (f : α → β) :
    (result.map f).isOk = result.isOk := by
  cases result <;> rfl

/-- What cannot raise decides nothing. -/
theorem isOk_bind_of_total (result : Except ε α) {next : α → Except ε β}
    (total : ∀ value, (next value).isOk = true) : (result >>= next).isOk = result.isOk := by
  cases result with
  | error raised => rfl
  | ok value => exact total value

/-- What goes on alike after every value raises where one of the two does. -/
theorem isOk_bind_of_same (result : Except ε α) {next : α → Except ε β} {completes : Bool}
    (same : ∀ value, (next value).isOk = completes) :
    (result >>= next).isOk = (result.isOk && completes) := by
  cases result with
  | error raised => rfl
  | ok value => exact same value

/-- A sequence returns what its second part makes of what the first returns. -/
theorem bind_eq_ok {result : Except ε α} {next : α → Except ε β} {value : β} :
    (result >>= next) = .ok value ↔ ∃ first, result = .ok first ∧ next first = .ok value := by
  cases result with
  | error raised => simp [bind, Except.bind]
  | ok first => simp [bind, Except.bind]

/-- A pass over a list completes if each call of it does. -/
theorem isOk_forM (items : List α) (call : α → Except ε Unit) :
    (items.forM call).isOk = true ↔ ∀ item ∈ items, (call item).isOk = true := by
  rw [List.forM_eq_forM]
  induction items with
  | nil => exact iff_of_true rfl (List.forall_mem_nil _)
  | cons item rest ih =>
      rw [List.forM_cons, List.forall_mem_cons, ← ih]
      cases call item with
      | error raised => simp [bind, Except.bind]
      | ok done => simp [bind, Except.bind]

/-- A pass over a list never raises where no call of it does. -/
theorem forM_eq_ok (items : List α) {call : α → Except ε Unit}
    (swallowed : ∀ item, call item = .ok ()) : items.forM call = .ok () := by
  rw [List.forM_eq_forM]
  induction items with
  | nil => rfl
  | cons item rest ih =>
      rw [List.forM_cons, swallowed]
      exact ih

end WardenDemo.Results
