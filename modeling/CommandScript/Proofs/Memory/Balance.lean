import CommandScript.Proofs.Memory.Failure
import Mathlib.Data.List.Nodup

/-!
What has become of every instance. An allocation that succeeds adds one instance, a request to free
one that succeeds removes one, and collections count what they remove; nothing else does either. So
in every memory that a script can come to, what was allocated is live, or was collected, or was freed
by request (`instances_accounted`). That freeing removes just one instance, and that an allocation
takes the place of none, is because references are distinct (`Distinct`).
-/
namespace CommandScript
variable {α : Type}

/-- A request that adds an instance if it succeeds. -/
def Request.allocates : Request α → Bool
  | .allocate .. | .allocateTraced .. | .reassign .. => true
  | _ => false

/-- A request that removes an instance if it succeeds. -/
def Request.frees : Request α → Bool
  | .free _ => true
  | _ => false

/-- A request for a collection and nothing else. -/
def Request.isCollect : Request α → Bool
  | .collect => true
  | _ => false

/-- A request to leave a scope and then to collect, in a memory that is made to collect or not. -/
def Request.leavesCollecting (collectOnPop : Bool) : Request α → Bool
  | .pop collecting => collecting
  | .popDefault => collectOnPop
  | _ => false

/-- A request that runs a collection if it succeeds. -/
def Request.collects (collectOnPop : Bool) (request : Request α) : Bool :=
  request.isCollect || request.leavesCollecting collectOnPop

theorem Request.idle_of_asks {request : Request α} (asks : request.asks) (collectOnPop : Bool) :
    request.allocates = false ∧ request.frees = false ∧ request.collects collectOnPop = false := by
  cases request with
  | resolve | get | getByName | inspect | isLive | collectsOnPop => exact ⟨rfl, rfl, rfl⟩
  | allocate | allocateTraced | bind | reassign | addDependency | push | pop | popDefault | collect | free =>
    contradiction

namespace Memory
variable {memory next : Memory α} {id : RefId}

/-- No two instances have one reference. -/
def Distinct (memory : Memory α) : Prop := (memory.instances.map (·.1)).Nodup

/-- The instances that are live or were collected. -/
def accounted (memory : Memory α) : Nat := memory.liveCount + memory.stats.freed

/-! ## Distinct references -/

/-- Where references are distinct, only one instance is removed. -/
theorem length_without {instances : List (RefId × Instance α)} {found : Instance α}
    (distinct : (instances.map (·.1)).Nodup) (present : instances.lookup id = some found) :
    (without id instances).length + 1 = instances.length := by
  have member : id ∈ instances.map (·.1) := List.mem_map.mpr ⟨(id, found), Entries.mem_of_lookup present, rfl⟩
  have one : instances.countP (·.1 == id) = 1 := by
    have once := List.count_eq_one_of_mem distinct member
    rwa [List.count, List.countP_map] at once
  have parts := List.length_eq_countP_add_countP (·.1 == id) (l := instances)
  have others : (without id instances).length = instances.countP (fun entry => ¬ (entry.1 == id) = true) := by
    rw [without, ← List.countP_eq_length_filter]
    refine List.countP_congr fun entry _ => ?_
    simp
  omega

theorem distinct_of_sublist {instances : List (RefId × Instance α)} (distinct : memory.Distinct)
    (left : instances.Sublist memory.instances) : (instances.map (·.1)).Nodup :=
  distinct.sublist (left.map _)

theorem Change.distinct (change : memory.Change next) (bounded : memory.Bounded) (distinct : memory.Distinct) :
    next.Distinct := by
  cases change with
  | kept => exact distinct
  | rescoped scopes => exact distinct
  | added added scopes =>
    have fresh : memory.nextId ∉ memory.instances.map (·.1) := by
      intro taken
      obtain ⟨entry, member, same⟩ := List.mem_map.mp taken
      have present : (memory.instances.lookup memory.nextId).isSome := by
        rw [List.lookup_isSome_iff]
        exact ⟨entry, member, by simp [same]⟩
      obtain ⟨found, live⟩ := Option.isSome_iff_exists.mp present
      exact Nat.lt_irrefl _ (bounded memory.nextId found live)
    have keys : ((memory.instances ++ [(memory.nextId, added)]).map (·.1)).Nodup := by
      rw [List.map_append, List.nodup_append]
      refine ⟨distinct, by simp, ?_⟩
      intro other member last isLast same
      simp only [List.map_cons, List.map_nil, List.mem_singleton] at isLast
      exact fresh (isLast ▸ same ▸ member)
    exact keys
  | depended owner dep =>
    have keys : (memory.depend owner dep).instances.map (·.1) = memory.instances.map (·.1) := by
      rw [depend, List.map_map]
      rfl
    rw [Distinct, keys]
    exact distinct
  | freed id => exact distinct_of_sublist distinct List.filter_sublist
  | collected scopes => exact distinct_of_sublist distinct List.filter_sublist

/-! ## One request -/

theorem Change.collectOnPop (change : memory.Change next) : next.collectOnPop = memory.collectOnPop := by
  cases change with
  | kept | rescoped | added | depended | freed | collected => rfl

/-- A collection removes what it counts. -/
theorem accounted_collect (memory : Memory α) : memory.collect.2.accounted = memory.accounted := by
  have fewer : memory.collect.2.instances.length ≤ memory.instances.length := List.length_filter_le ..
  have freed : memory.collect.2.stats.freed =
      memory.stats.freed + (memory.instances.length - memory.collect.2.instances.length) := rfl
  simp only [accounted, liveCount]
  omega

theorem accounted_outside (collecting : Bool) (scopes : List Scope) :
    (memory.outside collecting scopes).accounted = memory.accounted := by
  cases collecting with
  | false => rfl
  | true => exact accounted_collect { memory with scopes }

theorem collections_outside (collecting : Bool) (scopes : List Scope) :
    (memory.outside collecting scopes).stats.collections = memory.stats.collections + collecting.toNat := by
  cases collecting with
  | false => rfl
  | true => rfl

theorem accounted_add (added : Instance α) (scopes : List Scope) :
    ({ memory.add added with scopes } : Memory α).accounted = memory.accounted + 1 := by
  simp only [accounted, liveCount, add, List.length_append, List.length_singleton]
  omega

section
variable [Traced α] {request : Request α} {reply : Reply α}

/-- A request that succeeds adds an instance if it allocates, and takes one from those accounted for
    if it frees. -/
theorem Step.accounted (step : memory.Step request reply next) (distinct : memory.Distinct)
    (succeeds : reply.isFailure = false) :
    next.accounted + request.frees.toNat = memory.accounted + request.allocates.toNat := by
  cases step with
  | allocate | allocateTraced | reassign => exact accounted_add _ _
  | bind | push => rfl
  | addDependency =>
    simp [Memory.accounted, liveCount, depend, Request.frees, Request.allocates]
  | pop | popDefault => exact accounted_outside _ _
  | collect => exact accounted_collect memory
  | free live =>
    have one := length_without distinct live
    simp only [Memory.accounted, liveCount, Request.frees, Request.allocates, Bool.toNat_true, Bool.toNat_false]
    omega
  | told asks =>
    obtain ⟨allocates, frees, _⟩ := Request.idle_of_asks asks memory.collectOnPop
    rw [allocates, frees]
  | failed => contradiction

/-- A request that succeeds counts the collection that it runs. -/
theorem Step.collections (step : memory.Step request reply next) (succeeds : reply.isFailure = false) :
    next.stats.collections = memory.stats.collections + (request.collects memory.collectOnPop).toNat := by
  cases step with
  | allocate | allocateTraced | reassign | bind | addDependency | push | free => rfl
  | pop | popDefault => exact collections_outside _ _
  | collect => rfl
  | told asks =>
    obtain ⟨_, _, idle⟩ := Request.idle_of_asks asks memory.collectOnPop
    rw [idle]
    rfl
  | failed => contradiction

/-! ## Several requests -/

omit [Traced α] in
theorem countP_cons_toNat (counts : Request α → Bool) (request : Request α) (rest : List (Request α)) :
    (request :: rest).countP counts = rest.countP counts + (counts request).toNat := by
  rw [List.countP_cons]
  cases counts request with
  | false => rfl
  | true => rfl

/-- What a run allocates is accounted for behind it, or has been freed by request. -/
theorem accounted_after (bounded : memory.Bounded) (distinct : memory.Distinct) (requests : List (Request α)) :
    (memory.after requests).accounted + (memory.successful requests).countP (·.frees) =
      memory.accounted + (memory.successful requests).countP (·.allocates) := by
  induction requests generalizing memory with
  | nil => rfl
  | cons request rest ih =>
    have change := perform_change memory request
    have later := ih (change.bounded bounded) (change.distinct bounded distinct)
    rw [after_cons, successful]
    by_cases fails : (memory.perform request).1.isFailure = true
    · simp only [fails, ↓reduceIte]
      rw [perform_failed fails] at later ⊢
      exact later
    · have succeeds : (memory.perform request).1.isFailure = false := by simpa using fails
      have now := (memory.perform_step request).accounted distinct succeeds
      simp only [succeeds, Bool.false_eq_true, ↓reduceIte, countP_cons_toNat]
      omega

/-- A run counts its collections. -/
theorem collections_after (memory : Memory α) (requests : List (Request α)) :
    (memory.after requests).stats.collections =
      memory.stats.collections + (memory.successful requests).countP (·.collects memory.collectOnPop) := by
  induction requests generalizing memory with
  | nil => rfl
  | cons request rest ih =>
    have made := (perform_change memory request).collectOnPop
    have later := ih (memory.perform request).2
    rw [made] at later
    rw [after_cons, successful, later]
    by_cases fails : (memory.perform request).1.isFailure = true
    · simp only [fails, ↓reduceIte]
      rw [perform_failed fails]
    · have succeeds : (memory.perform request).1.isFailure = false := by simpa using fails
      have now := (memory.perform_step request).collections succeeds
      simp only [succeeds, Bool.false_eq_true, ↓reduceIte, countP_cons_toNat]
      omega

omit [Traced α] in
/-- A request that runs a collection asks for nothing else, or leaves a scope. -/
theorem countP_collects (collectOnPop : Bool) (requests : List (Request α)) :
    requests.countP (·.collects collectOnPop) =
      requests.countP (·.isCollect) + requests.countP (·.leavesCollecting collectOnPop) := by
  induction requests with
  | nil => rfl
  | cons request rest ih =>
    have one : (request.collects collectOnPop).toNat =
        request.isCollect.toNat + (request.leavesCollecting collectOnPop).toNat := by
      cases request with
      | collect => rfl
      | _ => exact (Nat.zero_add _).symm
    rw [countP_cons_toNat, countP_cons_toNat, countP_cons_toNat, ih, one]
    omega

/-- No request to collect fails. -/
theorem countP_isCollect_successful (memory : Memory α) (requests : List (Request α)) :
    (memory.successful requests).countP (·.isCollect) = requests.countP (·.isCollect) := by
  induction requests generalizing memory with
  | nil => rfl
  | cons request rest ih =>
    rw [successful]
    by_cases fails : (memory.perform request).1.isFailure = true
    · have other : request.isCollect = false := by
        cases request with
        | collect => contradiction
        | _ => rfl
      simp only [fails, ↓reduceIte, countP_cons_toNat, other, ih]
      rfl
    · simp only [fails, Bool.false_eq_true, ↓reduceIte, countP_cons_toNat, ih]

/-- In a run from a new memory, as many instances are live, collected or freed by request as requests to
    allocate or to reassign have succeeded. And as many collections are counted as were asked for, or run
    when a scope was left. -/
theorem instances_accounted (collectOnPop : Bool) (requests : List (Request α)) :
    let start : Memory α := { collectOnPop }
    let done := start.successful requests
    let after := start.after requests
    done.countP (·.allocates) = after.liveCount + after.stats.freed + done.countP (·.frees) ∧
      after.stats.collections = requests.countP (·.isCollect) + done.countP (·.leavesCollecting collectOnPop) := by
  intro start done after
  constructor
  · have distinct : start.Distinct := List.nodup_nil
    have balance := accounted_after (Arises.new collectOnPop).bounded distinct requests
    have none : start.accounted = 0 := rfl
    rw [none, Nat.zero_add] at balance
    exact balance.symm
  · have counted := collections_after start requests
    have none : start.stats.collections = 0 := rfl
    rw [none, Nat.zero_add] at counted
    calc after.stats.collections
        = done.countP (·.collects collectOnPop) := counted
      _ = done.countP (·.isCollect) + done.countP (·.leavesCollecting collectOnPop) := countP_collects ..
      _ = requests.countP (·.isCollect) + done.countP (·.leavesCollecting collectOnPop) := by
        rw [countP_isCollect_successful start requests]

end
end Memory
end CommandScript
