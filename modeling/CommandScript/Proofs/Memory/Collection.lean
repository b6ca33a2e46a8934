import CommandScript.Proofs.Memory.Transaction

/-!
What a collection keeps. A reference is reachable if a name in some scope leads to
it along the dependencies of live instances. The worklist drops exactly the
instances that are reachable (`lookup_unreached`), so that collecting keeps exactly
those and changes nothing else (`collect_keeps_reachable`).
-/
namespace CommandScript.Memory
open scoped Classical
variable {α : Type}

/-- A name in one of the scopes is bound to the reference. -/
def Names (scopes : List Scope) (id : RefId) : Prop :=
  ∃ scope ∈ scopes, ∃ name, (name, id) ∈ scope.bindings

/-- The instance `owner` is live and depends on the reference `dep`. -/
def DependsOn (memory : Memory α) (owner dep : RefId) : Prop :=
  ∃ held, memory.instance? owner = some held ∧ dep ∈ held.deps

/-- Dependencies, none or more of them, lead from a name to the reference. The reference itself
    may name nothing that is live. -/
inductive Reachable (memory : Memory α) : RefId → Prop
  | named {id : RefId} : Names memory.scopes id → Reachable memory id
  | dependency {owner dep : RefId} :
      Reachable memory owner → memory.DependsOn owner dep → Reachable memory dep

theorem mem_roots_iff {memory : Memory α} {id : RefId} : id ∈ memory.roots ↔ Names memory.scopes id := by
  simp [roots, Names, Scope.ids]

theorem lookup_without (id other : RefId) (instances : List (RefId × Instance α)) :
    (without id instances).lookup other = if other = id then none else instances.lookup other := by
  rw [without, Entries.lookup_filter (· != id)]
  by_cases same : other = id <;> simp [same]

/-! ## The worklist -/

/-- What holds of the worklist all along: `left` are the instances that it has not come to. Those
    that it has come to are reachable, and what they lead to is pending or was come to as well. -/
private structure Frontier (memory : Memory α) (pending : List RefId)
    (left : List (RefId × Instance α)) : Prop where
  held : ∀ id found, left.lookup id = some found → memory.instance? id = some found
  taken : ∀ id found, memory.instance? id = some found → left.lookup id = none → memory.Reachable id
  pendingReachable : ∀ id ∈ pending, memory.Reachable id
  nameFrontier : ∀ id, Names memory.scopes id → left.lookup id = none ∨ id ∈ pending
  depFrontier : ∀ owner, left.lookup owner = none → ∀ dep, memory.DependsOn owner dep →
    left.lookup dep = none ∨ dep ∈ pending

private theorem frontier_start (memory : Memory α) : Frontier memory memory.roots memory.instances := by
  refine ⟨fun _ _ found => found, ?_, ?_, ?_, ?_⟩
  · intro id found live absent
    rw [instance?, absent] at live
    contradiction
  · intro id member
    exact .named (mem_roots_iff.mp member)
  · intro id named
    exact Or.inr (mem_roots_iff.mpr named)
  · rintro owner absent dep ⟨found, live, _⟩
    rw [instance?, absent] at live
    contradiction

/-- A pending reference to nothing that is left can be forgotten. -/
private theorem frontier_skip {memory : Memory α} {id : RefId} {pending : List RefId}
    {left : List (RefId × Instance α)} (inv : Frontier memory (id :: pending) left)
    (absent : left.lookup id = none) : Frontier memory pending left := by
  have move (other : RefId) (h : left.lookup other = none ∨ other ∈ id :: pending) :
      left.lookup other = none ∨ other ∈ pending := by
    rcases h with h | h
    · exact Or.inl h
    · rcases List.mem_cons.mp h with same | later
      · exact Or.inl (same ▸ absent)
      · exact Or.inr later
  refine ⟨inv.held, inv.taken, ?_, ?_, ?_⟩
  · intro other member
    exact inv.pendingReachable other (List.mem_cons_of_mem _ member)
  · intro other named
    exact move other (inv.nameFrontier other named)
  · intro owner gone dep edge
    exact move dep (inv.depFrontier owner gone dep edge)

/-- A pending reference to an instance that is left is come to, and its dependencies are pending. -/
private theorem frontier_take {memory : Memory α} {id : RefId} {pending : List RefId}
    {left : List (RefId × Instance α)} {found : Instance α}
    (inv : Frontier memory (id :: pending) left) (present : left.lookup id = some found) :
    Frontier memory (found.deps.ids ++ pending) (without id left) := by
  have reachable : memory.Reachable id := inv.pendingReachable id (List.mem_cons_self ..)
  have live : memory.instance? id = some found := inv.held id found present
  have move (other : RefId) (h : left.lookup other = none ∨ other ∈ id :: pending) :
      (without id left).lookup other = none ∨ other ∈ found.deps.ids ++ pending := by
    rw [lookup_without]
    rcases h with h | h
    · exact Or.inl (by simp [h])
    · rcases List.mem_cons.mp h with same | later
      · exact Or.inl (by simp [same])
      · exact Or.inr (List.mem_append_right _ later)
  refine ⟨?_, ?_, ?_, ?_, ?_⟩
  · intro other held lookup
    rw [lookup_without] at lookup
    by_cases same : other = id
    · simp [same] at lookup
    · exact inv.held other held (by simpa [same] using lookup)
  · intro other held alive gone
    rw [lookup_without] at gone
    by_cases same : other = id
    · exact same ▸ reachable
    · exact inv.taken other held alive (by simpa [same] using gone)
  · intro other member
    rcases List.mem_append.mp member with dep | later
    · exact .dependency reachable ⟨found, live, dep⟩
    · exact inv.pendingReachable other (List.mem_cons_of_mem _ later)
  · intro other named
    exact move other (inv.nameFrontier other named)
  · intro owner gone dep edge
    rw [lookup_without] at gone
    by_cases same : owner = id
    · subst same
      obtain ⟨held, alive, member⟩ := edge
      have equal : held = found := Option.some.inj (alive.symm.trans live)
      exact Or.inr (List.mem_append_left _ (equal ▸ member))
    · exact move dep (inv.depFrontier owner (by simpa [same] using gone) dep edge)

/-- When nothing is pending, everything reachable has been come to. -/
private theorem frontier_finish {memory : Memory α} {left : List (RefId × Instance α)}
    (inv : Frontier memory [] left) {id : RefId} (reachable : memory.Reachable id) :
    left.lookup id = none := by
  induction reachable with
  | named named => simpa using inv.nameFrontier _ named
  | dependency _ edge ih => simpa using inv.depFrontier _ ih _ edge

private theorem frontier_unreached {memory : Memory α} {pending : List RefId}
    {left : List (RefId × Instance α)} (inv : Frontier memory pending left) :
    Frontier memory [] (unreached pending left) := by
  fun_induction unreached pending left with
  | case1 left => exact inv
  | case2 left id pending absent ih => exact ih (frontier_skip inv absent)
  | case3 left id pending found present ih => exact ih (frontier_take inv present)

/-- The worklist comes to exactly the live instances that are reachable. -/
theorem lookup_unreached {memory : Memory α} {id : RefId} {found : Instance α}
    (live : memory.instance? id = some found) :
    (unreached memory.roots memory.instances).lookup id = none ↔ memory.Reachable id := by
  have inv := frontier_unreached (frontier_start memory)
  constructor
  · intro gone
    exact inv.taken id found live gone
  · intro reachable
    exact frontier_finish inv reachable

/-! ## Collecting -/

/-- What a collection that frees `freed` instances makes of a memory. What stays is what is reachable,
    each instance as it was and in its place. -/
structure Collected (before : Memory α) (freed : Nat) (after : Memory α) : Prop where
  kept : after.instances = before.instances.filter fun entry => decide (before.Reachable entry.1)
  freed_eq : freed = (before.instances.filter fun entry => decide (¬ before.Reachable entry.1)).length
  stats : after.stats = ⟨before.stats.collections + 1, before.stats.freed + freed⟩
  scopes : after.scopes = before.scopes
  nextId : after.nextId = before.nextId
  collectOnPop : after.collectOnPop = before.collectOnPop

private theorem garbage_iff {memory : Memory α} {entry : RefId × Instance α}
    (member : entry ∈ memory.instances) :
    ((unreached memory.roots memory.instances).map (·.1)).contains entry.1 = false ↔
      memory.Reachable entry.1 := by
  have present : (memory.instances.lookup entry.1).isSome := by
    rw [List.lookup_isSome_iff]
    exact ⟨entry, member, by simp⟩
  obtain ⟨found, live⟩ := Option.isSome_iff_exists.mp present
  rw [← lookup_unreached live, List.lookup_eq_none_iff, List.contains_eq_mem, decide_eq_false_iff_not]
  constructor
  · intro absent other isLeft
    have different : entry.1 ≠ other.1 := fun same => absent (List.mem_map.mpr ⟨other, isLeft, same.symm⟩)
    simpa using different
  · intro none isGarbage
    obtain ⟨other, isLeft, same⟩ := List.mem_map.mp isGarbage
    simpa [same] using none other isLeft

theorem collected_collect (memory : Memory α) : Collected memory memory.collect.1 memory.collect.2 := by
  have kept : memory.collect.2.instances =
      memory.instances.filter fun entry => decide (memory.Reachable entry.1) := by
    apply List.filter_congr
    intro entry member
    have garbage := garbage_iff member
    by_cases reachable : memory.Reachable entry.1
    · rw [garbage.mpr reachable]
      simp [reachable]
    · have isGarbage := mt garbage.mp reachable
      rw [Bool.not_eq_false] at isGarbage
      rw [isGarbage]
      simp [reachable]
  have parts := List.length_eq_countP_add_countP (fun entry => decide (memory.Reachable entry.1))
    (l := memory.instances)
  simp only [List.countP_eq_length_filter, decide_eq_true_eq, decide_not] at parts
  refine ⟨kept, ?_, rfl, rfl, rfl, rfl⟩
  have removed : memory.collect.1 = memory.instances.length - memory.collect.2.instances.length := rfl
  rw [removed, kept]
  simp only [decide_not]
  omega

/-- What is live after a collection is what was live and reachable before it. -/
theorem Collected.instance?_eq {before after : Memory α} {freed : Nat}
    (collected : Collected before freed after) (id : RefId) :
    after.instance? id = if before.Reachable id then before.instance? id else none := by
  rw [instance?, collected.kept, Entries.lookup_filter fun id => decide (before.Reachable id)]
  simp only [decide_eq_true_eq]
  rfl

/-- A collection keeps exactly the instances that are reachable, as they are, and changes neither
    the scopes nor the next reference; it counts what it frees. Leaving a scope with a collection
    does the same by the names that are left; with no scope to leave it changes nothing. -/
theorem collect_keeps_reachable (memory : Memory α) :
    Collected memory memory.collect.1 memory.collect.2 ∧
      match memory.scopes with
      | [] => (Operation.pop true).run memory = .error .noScope memory
      | _ :: outer =>
        ∃ freed after, (Operation.pop true).run memory = .ok () after ∧
          Collected { memory with scopes := outer } freed after := by
  refine ⟨collected_collect memory, ?_⟩
  -- what the steps come to as a whole
  have comes := memory.comesTo_pop true
  cases scopes : memory.scopes with
  | nil =>
    have whole : memory.pop true = .error .noScope := by simp [pop, scopes]
    rw [whole] at comes
    exact comes
  | cons innermost outer =>
    let left : Memory α := { memory with scopes := outer }
    have whole : memory.pop true = .ok left.collect.2 := by simp [pop, scopes, left]
    rw [whole] at comes
    exact ⟨left.collect.1, left.collect.2, comes, collected_collect left⟩

end CommandScript.Memory
