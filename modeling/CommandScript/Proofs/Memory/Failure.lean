import CommandScript.Proofs.Memory.Run

/-!
Requests that fail. One that could change the memory fails for a reason that the memory shows
(`Fault`), and leaves the memory just as it was, although it is carried out step by step. So what
failed can be left out of a run: everything else is answered as before (`trace_successful`).
-/
namespace CommandScript

/-- Whether a request failed that was given this reply. -/
def Reply.isFailure {α : Type} : Reply α → Bool
  | .failed _ => true
  | .done | .reference _ | .value _ | .held _ | .count _ | .flag _ => false

namespace Memory
variable {α : Type} [Traced α] {memory next : Memory α} {request : Request α} {error : MemoryError}

/-- What a step that fails leaves is the memory before it, and it failed for a reason. -/
theorem Step.of_failed (step : memory.Step request (.failed error) next) :
    next = memory ∧ (request.asks ∨ memory.Fault request error) := by
  cases step with
  | told asks => exact ⟨rfl, Or.inl asks⟩
  | failed fault => exact ⟨rfl, Or.inr fault⟩

theorem perform_failed (fails : (memory.perform request).1.isFailure = true) : (memory.perform request).2 = memory := by
  have step := memory.perform_step request
  cases reply : (memory.perform request).1 with
  | failed error =>
    rw [reply] at step
    exact step.of_failed.1
  | done | reference | value | held | count | flag =>
    rw [reply] at fails
    contradiction

theorem trace_cons (request : Request α) (rest : List (Request α)) :
    memory.trace (request :: rest) = memory.perform request :: (memory.perform request).2.trace rest := rfl

/-- The requests that do not fail when all of them are performed in a row. -/
def successful (memory : Memory α) : List (Request α) → List (Request α)
  | [] => []
  | request :: rest =>
    let answered := memory.perform request
    if answered.1.isFailure then answered.2.successful rest else request :: answered.2.successful rest

/-- Without the requests that fail, a run gives the other ones the same replies and memories. -/
theorem trace_successful (memory : Memory α) (requests : List (Request α)) :
    memory.trace (memory.successful requests) =
      (memory.trace requests).filter fun answered => !answered.1.isFailure := by
  induction requests generalizing memory with
  | nil => rfl
  | cons request rest ih =>
    rw [trace_cons, successful]
    by_cases fails : (memory.perform request).1.isFailure = true
    · have same := perform_failed fails
      simp only [fails, ↓reduceIte, same]
      rw [List.filter_cons_of_neg (by simp [fails])]
      exact ih memory
    · simp only [fails, Bool.false_eq_true, ↓reduceIte]
      rw [trace_cons, List.filter_cons_of_pos (by simp [fails]), ih]

/-- The memory behind a run is the one behind the requests of it that do not fail. -/
theorem after_successful (memory : Memory α) (requests : List (Request α)) :
    memory.after (memory.successful requests) = memory.after requests := by
  induction requests generalizing memory with
  | nil => rfl
  | cons request rest ih =>
    rw [after_cons, successful]
    by_cases fails : (memory.perform request).1.isFailure = true
    · have same := perform_failed fails
      simp only [fails, ↓reduceIte, same]
      exact ih memory
    · simp only [fails, Bool.false_eq_true, ↓reduceIte]
      exact ih _

/-- A request that fails leaves all of the memory as it was, and whatever is asked next is answered as
    though it had not been made. If it could have changed the memory, then it failed for a fault. -/
theorem failure_changes_nothing (fails : (memory.perform request).1 = .failed error) :
    (memory.perform request).2 = memory ∧ (request.asks ∨ memory.Fault request error) ∧
      ∀ later, memory.trace (request :: later) = (.failed error, memory) :: memory.trace later := by
  have step := memory.perform_step request
  rw [fails] at step
  obtain ⟨same, reason⟩ := step.of_failed
  refine ⟨same, reason, fun later => ?_⟩
  have answered : memory.perform request = (.failed error, memory) := Prod.ext fails same
  rw [trace_cons, answered]

/-- The global scope has been left, so that no name can be bound. -/
def scopeless : Memory Value :=
  ({} : Memory Value).after [.allocate (.int 1) ⟨some "a", .empty, true⟩, .pop false]

theorem failure_changes_nothing_scopeless :
    (scopeless.perform (.allocate (.int 2) ⟨some "b", .empty, false⟩)).2 = scopeless ∧
      scopeless.trace [.allocate (.int 2) ⟨some "b", .empty, false⟩, .allocate (.int 3) ⟨none, .empty, false⟩] =
        (.failed .noScope, scopeless) :: scopeless.trace [.allocate (.int 3) ⟨none, .empty, false⟩] := by
  have fails : (scopeless.perform (.allocate (.int 2) ⟨some "b", .empty, false⟩)).1 = .failed .noScope := rfl
  obtain ⟨same, _, onward⟩ := failure_changes_nothing fails
  exact ⟨same, onward _⟩

end Memory
end CommandScript
