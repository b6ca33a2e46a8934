import CommandScript.Proofs.Memory.Transaction

/-!
What a request does to a memory. There is one constructor of `Step` for each request that
can change it, with what the memory checked before, and one of `Fault` for each reason for
which such a request fails; questions, and requests that fail, leave the memory as it was
(`perform_step`). Invariants go through these cases, never through the operations.
-/
namespace CommandScript

/-- A request that changes nothing, whatever it is answered. -/
def Request.asks {α : Type} : Request α → Bool
  | .resolve _ | .get _ | .getByName _ | .inspect _ | .isLive _ | .collectsOnPop => true
  | .allocate .. | .allocateTraced .. | .bind .. | .reassign .. | .addDependency .. | .push | .pop _
    | .popDefault | .collect | .free _ => false

namespace Memory
variable {α : Type}

/-- The memory with no scopes but these, and without its garbage if asked for. -/
def outside (memory : Memory α) (collecting : Bool) (scopes : List Scope) : Memory α :=
  let left := { memory with scopes }
  if collecting then left.collect.2 else left

/-- Why a request that could have changed the memory failed. -/
inductive Fault (memory : Memory α) : Request α → MemoryError → Prop
  | allocate {value : α} {options : Allocation} : options.name.isSome → memory.scopes = [] →
      Fault memory (.allocate value options) .noScope
  | allocateTraced {value : α} {options : Allocation} : options.name.isSome → memory.scopes = [] →
      Fault memory (.allocateTraced value options) .noScope
  | bindFreed {name : String} {id : RefId} : memory.instance? id = none →
      Fault memory (.bind name id) (.freed id)
  | bindNowhere {name : String} {id : RefId} : memory.scopes = [] → Fault memory (.bind name id) .noScope
  | reassignUnbound {name : String} {value : α} {deps : RefSet} : memory.binding? name = none →
      Fault memory (.reassign name value deps) (.unboundName name)
  | reassignConstant {name : String} {value : α} {deps : RefSet} {old : RefId} :
      memory.resolve name = .ok old → (memory.instance? old).any (·.constant) →
      Fault memory (.reassign name value deps) (.constReassignment name old)
  | addDependency {owner dep : RefId} : memory.instance? owner = none →
      Fault memory (.addDependency owner dep) (.freed owner)
  | pop {collecting : Bool} : memory.scopes = [] → Fault memory (.pop collecting) .noScope
  | popDefault : memory.scopes = [] → Fault memory .popDefault .noScope
  | free {id : RefId} : memory.instance? id = none → Fault memory (.free id) (.freed id)

/-- A request, what it is answered, and the memory after it. -/
inductive Step [Traced α] (memory : Memory α) : Request α → Reply α → Memory α → Prop
  | allocate {value : α} {options : Allocation} {scopes : List Scope} :
      bindNamed options.name memory.nextId memory.scopes = .ok scopes →
      Step memory (.allocate value options) (.reference memory.nextId)
        { memory.add ⟨value, options.deps, options.constant⟩ with scopes }
  | allocateTraced {value : α} {options : Allocation} {scopes : List Scope} :
      bindNamed options.name memory.nextId memory.scopes = .ok scopes →
      Step memory (.allocateTraced value options) (.reference memory.nextId)
        { memory.add ⟨value, options.deps.insertAll (Traced.references value).ids, options.constant⟩ with
          scopes }
  | bind {name : String} {id : RefId} {found : Instance α} {scopes : List Scope} :
      memory.instance? id = some found → bindInnermost name id memory.scopes = .ok scopes →
      Step memory (.bind name id) .done { memory with scopes }
  | reassign {name : String} {value : α} {deps : RefSet} {old : RefId} :
      memory.resolve name = .ok old → ¬ (memory.instance? old).any (·.constant) →
      Step memory (.reassign name value deps) (.reference memory.nextId)
        { memory.add ⟨value, deps, false⟩ with scopes := rebind name memory.nextId memory.scopes }
  | addDependency {owner dep : RefId} {held : Instance α} : memory.instance? owner = some held →
      Step memory (.addDependency owner dep) .done (memory.depend owner dep)
  | push : Step memory .push .done memory.push
  | pop {collecting : Bool} {innermost : Scope} {outer : List Scope} :
      memory.scopes = innermost :: outer →
      Step memory (.pop collecting) .done (memory.outside collecting outer)
  | popDefault {innermost : Scope} {outer : List Scope} : memory.scopes = innermost :: outer →
      Step memory .popDefault .done (memory.outside memory.collectOnPop outer)
  | collect : Step memory .collect (.count memory.collect.1) memory.collect.2
  | free {id : RefId} {removed : Instance α} : memory.instance? id = some removed →
      Step memory (.free id) (.value removed.value)
        { memory with instances := without id memory.instances }
  | told {request : Request α} {reply : Reply α} : request.asks → Step memory request reply memory
  | failed {request : Request α} {error : MemoryError} : memory.Fault request error →
      Step memory request (.failed error) memory

/-! ## What each operation checks -/

/-- Steps one after the other succeed if each of them does. -/
theorem bind_eq_ok_iff {β γ : Type} {first : Except MemoryError β} {next : β → Except MemoryError γ}
    {result : γ} :
    (first >>= next) = .ok result ↔ ∃ middle, first = .ok middle ∧ next middle = .ok result := by
  cases first with
  | error error => simp [Bind.bind, Except.bind]
  | ok middle => simp [Bind.bind, Except.bind]

/-- Steps one after the other fail if one of them does, and those before it succeed. -/
theorem bind_eq_error_iff {β γ : Type} {first : Except MemoryError β} {next : β → Except MemoryError γ}
    {error : MemoryError} : (first >>= next) = .error error ↔
      first = .error error ∨ ∃ middle, first = .ok middle ∧ next middle = .error error := by
  cases first with
  | error error => simp [Bind.bind, Except.bind]
  | ok middle => simp [Bind.bind, Except.bind]

section
variable {memory next : Memory α} {error : MemoryError} {id : RefId}

theorem inspect_eq_ok {found : Instance α} (inspected : memory.inspect id = .ok found) :
    memory.instance? id = some found := by
  unfold inspect at inspected
  split at inspected
  · rename_i held live
    cases inspected
    exact live
  · contradiction

theorem inspect_eq_error (missed : memory.inspect id = .error error) :
    memory.instance? id = none ∧ error = .freed id := by
  unfold inspect at missed
  split at missed
  · contradiction
  · rename_i dead
    cases missed
    exact ⟨dead, rfl⟩

theorem resolve_eq_error {name : String} (unresolved : memory.resolve name = .error error) :
    memory.binding? name = none ∧ error = .unboundName name := by
  unfold resolve at unresolved
  split at unresolved
  · contradiction
  · rename_i unbound
    cases unresolved
    exact ⟨unbound, rfl⟩

theorem bindInnermost_eq_error {name : String} {scopes : List Scope}
    (unbound : bindInnermost name id scopes = .error error) : scopes = [] ∧ error = .noScope := by
  cases scopes with
  | nil =>
    cases unbound
    exact ⟨rfl, rfl⟩
  | cons scope outer => contradiction

theorem allocate_eq_ok {value : α} {options : Allocation} (done : memory.allocate value options = .ok (id, next)) :
    ∃ scopes, bindNamed options.name memory.nextId memory.scopes = .ok scopes ∧ id = memory.nextId ∧
      next = { memory.add ⟨value, options.deps, options.constant⟩ with scopes } := by
  obtain ⟨scopes, bound, done⟩ := bind_eq_ok_iff.mp done
  cases done
  exact ⟨scopes, bound, rfl, rfl⟩

theorem allocate_eq_error {value : α} {options : Allocation} (fails : memory.allocate value options = .error error) :
    options.name.isSome ∧ memory.scopes = [] ∧ error = .noScope := by
  rcases bind_eq_error_iff.mp fails with unbound | ⟨scopes, _, fails⟩
  · cases named : options.name with
    | none =>
      rw [named] at unbound
      contradiction
    | some name =>
      rw [named] at unbound
      exact ⟨rfl, bindInnermost_eq_error unbound⟩
  · contradiction

theorem pop_eq_ok {collecting : Bool} (done : memory.pop collecting = .ok next) :
    ∃ innermost outer, memory.scopes = innermost :: outer ∧ next = memory.outside collecting outer := by
  unfold pop at done
  split at done
  · contradiction
  · rename_i innermost outer scopes
    cases done
    exact ⟨innermost, outer, scopes, rfl⟩

theorem pop_eq_error {collecting : Bool} (fails : memory.pop collecting = .error error) :
    memory.scopes = [] ∧ error = .noScope := by
  unfold pop at fails
  split at fails
  · rename_i scopes
    cases fails
    exact ⟨scopes, rfl⟩
  · contradiction

end

/-! ## Requests -/

section
variable [Traced α] {memory : Memory α} {request : Request α}

/-- A change that may fail is the step that it is when it succeeds, or has a fault. -/
private theorem change_step {β : Type} {reply : β → Reply α} {outcome : Except MemoryError (β × Memory α)}
    (step : ∀ result next, outcome = .ok (result, next) → memory.Step request (reply result) next)
    (fault : ∀ error, outcome = .error error → memory.Fault request error) :
    memory.Step request (memory.change reply outcome).1 (memory.change reply outcome).2 := by
  cases outcome with
  | error error => exact .failed (fault error rfl)
  | ok done => exact step done.1 done.2 rfl

private theorem unit_step {outcome : Except MemoryError (Memory α)}
    (step : ∀ next, outcome = .ok next → memory.Step request .done next)
    (fault : ∀ error, outcome = .error error → memory.Fault request error) :
    memory.Step request (memory.change (fun _ => .done) (((), ·) <$> outcome)).1
      (memory.change (fun _ => .done) (((), ·) <$> outcome)).2 := by
  cases outcome with
  | error error => exact .failed (fault error rfl)
  | ok next => exact step next rfl

private theorem ask_step {β : Type} {reply : β → Reply α} {outcome : Except MemoryError β}
    (asks : request.asks) :
    memory.Step request (memory.ask reply outcome).1 (memory.ask reply outcome).2 := by
  cases outcome with
  | error error => exact .told asks
  | ok result => exact .told asks

/-- Every request is answered by one of the steps. -/
theorem perform_step (memory : Memory α) (request : Request α) :
    memory.Step request (memory.perform request).1 (memory.perform request).2 := by
  rw [perform_eq_transact]
  cases request with
  | allocate value options =>
    refine change_step ?_ ?_
    · intro id next done
      obtain ⟨scopes, bound, rfl, rfl⟩ := allocate_eq_ok done
      exact .allocate bound
    · intro error fails
      obtain ⟨named, none, rfl⟩ := allocate_eq_error fails
      exact .allocate named none
  | allocateTraced value options =>
    refine change_step ?_ ?_
    · intro id next done
      obtain ⟨scopes, bound, rfl, rfl⟩ := allocate_eq_ok done
      exact .allocateTraced bound
    · intro error fails
      obtain ⟨named, none, rfl⟩ := allocate_eq_error fails
      exact .allocateTraced named none
  | bind name id =>
    refine unit_step ?_ ?_
    · intro next done
      obtain ⟨found, inspected, done⟩ := bind_eq_ok_iff.mp done
      obtain ⟨scopes, bound, done⟩ := bind_eq_ok_iff.mp done
      cases done
      exact .bind (inspect_eq_ok inspected) bound
    · intro error fails
      rcases bind_eq_error_iff.mp fails with missed | ⟨found, _, fails⟩
      · obtain ⟨dead, rfl⟩ := inspect_eq_error missed
        exact .bindFreed dead
      · rcases bind_eq_error_iff.mp fails with unbound | ⟨scopes, _, fails⟩
        · obtain ⟨none, rfl⟩ := bindInnermost_eq_error unbound
          exact .bindNowhere none
        · contradiction
  | reassign name value deps =>
    refine change_step ?_ ?_
    · intro id next done
      obtain ⟨old, resolved, done⟩ := bind_eq_ok_iff.mp done
      split at done
      · contradiction
      · rename_i assignable
        cases done
        exact .reassign resolved assignable
    · intro error fails
      rcases bind_eq_error_iff.mp fails with unresolved | ⟨old, resolved, fails⟩
      · obtain ⟨unbound, rfl⟩ := resolve_eq_error unresolved
        exact .reassignUnbound unbound
      · split at fails
        · rename_i constant
          cases fails
          exact .reassignConstant resolved constant
        · contradiction
  | addDependency owner dep =>
    refine unit_step ?_ ?_
    · intro next done
      obtain ⟨found, inspected, done⟩ := bind_eq_ok_iff.mp done
      cases done
      exact .addDependency (inspect_eq_ok inspected)
    · intro error fails
      rcases bind_eq_error_iff.mp fails with missed | ⟨found, _, fails⟩
      · obtain ⟨dead, rfl⟩ := inspect_eq_error missed
        exact .addDependency dead
      · contradiction
  | push => exact .push
  | pop collecting =>
    refine unit_step ?_ ?_
    · intro next done
      obtain ⟨innermost, outer, scopes, rfl⟩ := pop_eq_ok done
      exact .pop scopes
    · intro error fails
      obtain ⟨none, rfl⟩ := pop_eq_error fails
      exact .pop none
  | popDefault =>
    refine unit_step ?_ ?_
    · intro next done
      obtain ⟨innermost, outer, scopes, rfl⟩ := pop_eq_ok done
      exact .popDefault scopes
    · intro error fails
      obtain ⟨none, rfl⟩ := pop_eq_error fails
      exact .popDefault none
  | collect => exact .collect
  | free id =>
    refine change_step ?_ ?_
    · intro value next done
      obtain ⟨removed, inspected, done⟩ := bind_eq_ok_iff.mp done
      cases done
      exact .free (inspect_eq_ok inspected)
    · intro error fails
      rcases bind_eq_error_iff.mp fails with missed | ⟨removed, _, fails⟩
      · obtain ⟨dead, rfl⟩ := inspect_eq_error missed
        exact .free dead
      · contradiction
  | resolve name => exact ask_step rfl
  | get id => exact ask_step rfl
  | getByName name => exact ask_step rfl
  | inspect id => exact ask_step rfl
  | isLive id => exact .told rfl
  | collectsOnPop => exact .told rfl

end

end Memory
end CommandScript
