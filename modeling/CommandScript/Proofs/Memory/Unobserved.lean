import CommandScript.Proofs.Memory.Run

/-!
A script cannot tell that a collection took place, as long as it uses only the
references that its names lead to. Of two memories with the same names, one may lack
instances that are out of reach: they answer every request alike and stay so related
(`perform_alike`), and a collected memory is such a one (`replies_collected`).
-/
namespace CommandScript

/-- The references that a request is given, those in a traced value among them. -/
def Request.given {α : Type} [Traced α] : Request α → List RefId
  | .allocate _ options => options.deps.ids
  | .allocateTraced value options => options.deps.ids ++ (Traced.references value).ids
  | .reassign _ _ deps => deps.ids
  | .addDependency owner dep => [owner, dep]
  | .bind _ id | .get id | .inspect id | .free id | .isLive id => [id]
  | .resolve _ | .push | .pop _ | .popDefault | .collect | .getByName _ | .collectsOnPop => []

/-- A reply without the number that a collection counts. -/
def Reply.uncounted {α : Type} : Reply α → Reply α
  | .count _ => .done
  | reply => reply

namespace Memory
variable {α : Type}

/-- Every request is given only references that are reachable when it is performed. -/
def GivenReachable [Traced α] (memory : Memory α) : List (Request α) → Prop
  | [] => True
  | request :: rest =>
    (∀ id ∈ request.given, memory.Reachable id) ∧ GivenReachable (memory.perform request).2 rest

/-- What a memory answers to several requests in a row, collections not counted. -/
def replies [Traced α] (memory : Memory α) (requests : List (Request α)) : List (Reply α) :=
  (memory.trace requests).map (·.1.uncounted)

/-- The second memory has the names of the first one, and the instances that are reachable there. -/
structure Alike (full slim : Memory α) : Prop where
  scopes : slim.scopes = full.scopes
  nextId : slim.nextId = full.nextId
  collectOnPop : slim.collectOnPop = full.collectOnPop
  instances : ∀ id, full.Reachable id → slim.instance? id = full.instance? id

/-! ## What is reachable after a change -/

/-- If names lead only to what is fresh or was reachable, and dependencies that are new only to
    what was reachable, then nothing else has become reachable. -/
theorem reachable_of_change (fresh : RefId → Prop) {before after : Memory α} {id : RefId}
    (reachable : after.Reachable id)
    (names : ∀ id, Names after.scopes id → fresh id ∨ before.Reachable id)
    (edges : ∀ owner dep, after.DependsOn owner dep →
      before.Reachable dep ∨ (¬ fresh owner ∧ before.DependsOn owner dep)) :
    fresh id ∨ before.Reachable id := by
  induction reachable with
  | named named => exact names _ named
  | dependency _ edge ih =>
    rcases edges _ _ edge with reached | ⟨old, edge⟩
    · exact Or.inr reached
    · exact Or.inr (.dependency (ih.resolve_left old) edge)

/-- With names only to what was reachable, and no instance that was not there, nothing has become
    reachable. -/
theorem reachable_of_live {before after : Memory α} {id : RefId} (reachable : after.Reachable id)
    (names : ∀ id, Names after.scopes id → before.Reachable id)
    (live : ∀ id found, after.instance? id = some found → before.instance? id = some found) :
    before.Reachable id := by
  have known : False ∨ before.Reachable id := by
    refine reachable_of_change (fun _ => False) reachable ?_ ?_
    · intro id named
      exact Or.inr (names id named)
    · rintro owner dep ⟨found, alive, member⟩
      exact Or.inr ⟨not_false, found, live owner found alive, member⟩
  exact known.resolve_left not_false

/-- What a name is bound to is reachable. -/
theorem reachable_of_resolve {memory : Memory α} {name : String} {id : RefId}
    (resolved : memory.resolve name = .ok id) : memory.Reachable id :=
  .named (names_of_resolve resolved)

theorem reachable_add {memory : Memory α} {added : Instance α} {scopes : List Scope}
    (bounded : memory.Bounded) (deps : ∀ id ∈ added.deps, memory.Reachable id)
    (names : ∀ id, Names scopes id → id = memory.nextId ∨ memory.Reachable id)
    {id : RefId} (reachable : ({ memory.add added with scopes } : Memory α).Reachable id) :
    id = memory.nextId ∨ memory.Reachable id := by
  refine reachable_of_change (· = memory.nextId) reachable names ?_
  rintro owner dep ⟨found, alive, member⟩
  have alive : (memory.add added).instance? owner = some found := alive
  rw [instance?_add] at alive
  cases before : memory.instance? owner with
  | some held =>
    have old : ¬ owner = memory.nextId := fun same => absurd (bounded owner held before) (by simp [same])
    rw [before, Option.some_or] at alive
    exact Or.inr ⟨old, found, before.trans alive, member⟩
  | none =>
    rw [before, Option.none_or] at alive
    split at alive
    · exact Or.inl (deps dep (Option.some.inj alive ▸ member))
    · contradiction

theorem reachable_depend {memory : Memory α} {owner dep : RefId} (given : memory.Reachable dep)
    {id : RefId} (reachable : (memory.depend owner dep).Reachable id) : memory.Reachable id := by
  have known : False ∨ memory.Reachable id := by
    refine reachable_of_change (fun _ => False) reachable ?_ ?_
    · intro id named
      exact Or.inr (.named named)
    · rintro holder target ⟨found, alive, member⟩
      rw [instance?_depend] at alive
      obtain ⟨held, before, changed⟩ := Option.map_eq_some_iff.mp alive
      by_cases same : holder = owner
      · rw [if_pos same] at changed
        rw [← changed, RefSet.mem_insert] at member
        rcases member with new | old
        · exact Or.inl (new ▸ given)
        · exact Or.inr ⟨not_false, held, before, old⟩
      · rw [if_neg same] at changed
        exact Or.inr ⟨not_false, held, before, changed ▸ member⟩
  exact known.resolve_left not_false

/-! ## Memories that are alike -/

theorem alike_collect (memory : Memory α) : Alike memory memory.collect.2 := by
  have collected := collected_collect memory
  refine ⟨collected.scopes, collected.nextId, collected.collectOnPop, ?_⟩
  intro id reachable
  rw [collected.instance?_eq, if_pos reachable]

section
variable {full slim : Memory α} (alike : Alike full slim)
include alike

/-- Only reachable instances decide what is reachable. -/
theorem Alike.reachable_iff (id : RefId) : slim.Reachable id ↔ full.Reachable id := by
  constructor
  · intro reachable
    induction reachable with
    | named named => exact .named (alike.scopes ▸ named)
    | dependency _ edge ih =>
      obtain ⟨found, alive, member⟩ := edge
      exact .dependency ih ⟨found, alike.instances _ ih ▸ alive, member⟩
  · intro reachable
    induction reachable with
    | named named => exact .named (alike.scopes.symm ▸ named)
    | dependency owner edge ih =>
      obtain ⟨found, alive, member⟩ := edge
      exact .dependency ih ⟨found, (alike.instances _ owner).trans alive, member⟩

theorem Alike.rescoped {scopes : List Scope} (names : ∀ id, Names scopes id → full.Reachable id) :
    Alike { full with scopes } { slim with scopes } := by
  refine ⟨rfl, alike.nextId, alike.collectOnPop, ?_⟩
  intro id reachable
  exact alike.instances id (reachable_of_live reachable names fun _ _ live => live)

theorem Alike.added (fullBounded : full.Bounded) (slimBounded : slim.Bounded) {added : Instance α}
    {scopes : List Scope} (deps : ∀ id ∈ added.deps, full.Reachable id)
    (names : ∀ id, Names scopes id → id = full.nextId ∨ full.Reachable id) :
    Alike { full.add added with scopes } { slim.add added with scopes } := by
  refine ⟨rfl, congrArg (· + 1) alike.nextId, alike.collectOnPop, ?_⟩
  intro id reachable
  change (slim.add added).instance? id = (full.add added).instance? id
  rw [instance?_add, instance?_add, alike.nextId]
  rcases reachable_add fullBounded deps names reachable with new | old
  · have absent {memory : Memory α} (bounded : memory.Bounded) (next : id = memory.nextId) :
        memory.instance? id = none := by
      cases live : memory.instance? id with
      | none => rfl
      | some found => exact absurd (bounded id found live) (by simp [next])
    rw [absent fullBounded new, absent slimBounded (new.trans alike.nextId.symm)]
  · rw [alike.instances id old]

theorem Alike.depended {owner dep : RefId} (given : full.Reachable dep) :
    Alike (full.depend owner dep) (slim.depend owner dep) := by
  refine ⟨alike.scopes, alike.nextId, alike.collectOnPop, ?_⟩
  intro id reachable
  rw [instance?_depend, instance?_depend, alike.instances id (reachable_depend given reachable)]

theorem Alike.freed (id : RefId) :
    Alike { full with instances := without id full.instances }
      { slim with instances := without id slim.instances } := by
  refine ⟨alike.scopes, alike.nextId, alike.collectOnPop, ?_⟩
  intro other reachable
  have before : full.Reachable other := by
    refine reachable_of_live reachable (fun _ named => .named named) ?_
    intro owner found live
    have live : (without id full.instances).lookup owner = some found := live
    rw [lookup_without] at live
    split at live
    · contradiction
    · exact live
  change (without id slim.instances).lookup other = (without id full.instances).lookup other
  rw [lookup_without, lookup_without]
  split
  · rfl
  · exact alike.instances other before

theorem Alike.collected : Alike full.collect.2 slim.collect.2 := by
  have fullCollected := collected_collect full
  have slimCollected := collected_collect slim
  refine ⟨?_, ?_, ?_, ?_⟩
  · rw [slimCollected.scopes, fullCollected.scopes, alike.scopes]
  · rw [slimCollected.nextId, fullCollected.nextId, alike.nextId]
  · rw [slimCollected.collectOnPop, fullCollected.collectOnPop, alike.collectOnPop]
  · intro id reachable
    have before : full.Reachable id := by
      refine reachable_of_live reachable ?_ fun _ _ => instance?_collect full
      intro other named
      exact .named (fullCollected.scopes ▸ named)
    rw [slimCollected.instance?_eq, fullCollected.instance?_eq, if_pos before,
      if_pos ((alike.reachable_iff id).mpr before), alike.instances id before]

end

/-! ## The same request on memories that are alike -/

/-- Both succeed with results that are related, or both fail for the same reason. -/
def SameOutcome {β : Type} (related : β → β → Prop) : Except MemoryError β → Except MemoryError β → Prop
  | .ok full, .ok slim => related full slim
  | .error full, .error slim => slim = full
  | _, _ => False

/-- The same result, in memories that are alike. -/
def SameResult {β : Type} (full slim : β × Memory α) : Prop := slim.1 = full.1 ∧ Alike full.2 slim.2

private theorem same_after {β γ : Type} {related : β → β → Prop} (first : Except MemoryError γ)
    {full slim : γ → Except MemoryError β}
    (same : ∀ middle, first = .ok middle → SameOutcome related (full middle) (slim middle)) :
    SameOutcome related (first >>= full) (first >>= slim) := by
  cases first with
  | error error => rfl
  | ok middle => exact same middle rfl

private theorem same_unit {full slim : Except MemoryError (Memory α)} (same : SameOutcome Alike full slim) :
    SameOutcome SameResult (((), ·) <$> full) (((), ·) <$> slim) := by
  cases full with
  | error error =>
    cases slim with
    | error other => exact same
    | ok after => exact same.elim
  | ok after =>
    cases slim with
    | error other => exact same.elim
    | ok other => exact ⟨rfl, same⟩

section
variable {full slim : Memory α} (alike : Alike full slim)
include alike

theorem Alike.inspect_eq {id : RefId} (given : full.Reachable id) : slim.inspect id = full.inspect id := by
  rw [inspect, inspect, alike.instances id given]

theorem Alike.get_eq {id : RefId} (given : full.Reachable id) : slim.get id = full.get id := by
  rw [get, get, alike.inspect_eq given]

theorem Alike.resolve_eq (name : String) : slim.resolve name = full.resolve name := by
  rw [resolve, resolve, binding?, binding?, alike.scopes]

theorem Alike.getByName_eq (name : String) : slim.getByName name = full.getByName name := by
  rw [getByName, getByName, alike.resolve_eq name]
  cases resolved : full.resolve name with
  | error error => rfl
  | ok id => exact alike.get_eq (reachable_of_resolve resolved)

theorem Alike.allocate_same (fullBounded : full.Bounded) (slimBounded : slim.Bounded) (value : α)
    {options : Allocation} (deps : ∀ id ∈ options.deps, full.Reachable id) :
    SameOutcome SameResult (full.allocate value options) (slim.allocate value options) := by
  rw [allocate, allocate, alike.nextId, alike.scopes]
  refine same_after _ fun scopes bound => ⟨rfl, ?_⟩
  refine alike.added fullBounded slimBounded deps fun id named => ?_
  rcases names_bindNamed bound named with new | old
  · exact Or.inl new
  · exact Or.inr (.named old)

theorem Alike.bind_same (name : String) {id : RefId} (given : full.Reachable id) :
    SameOutcome Alike (full.bind name id) (slim.bind name id) := by
  rw [bind, bind, alike.inspect_eq given, alike.scopes]
  refine same_after _ fun found inspected => same_after _ fun scopes bound => ?_
  refine alike.rescoped fun other named => ?_
  rcases names_bindInnermost bound named with new | old
  · exact new ▸ given
  · exact .named old

theorem Alike.reassign_same (fullBounded : full.Bounded) (slimBounded : slim.Bounded) (name : String)
    (value : α) {deps : RefSet} (given : ∀ id ∈ deps, full.Reachable id) :
    SameOutcome SameResult (full.reassign name value deps) (slim.reassign name value deps) := by
  rw [reassign, reassign, alike.resolve_eq name, alike.nextId, alike.scopes]
  refine same_after _ fun old resolved => ?_
  rw [alike.instances old (reachable_of_resolve resolved)]
  split
  · rfl
  · refine ⟨rfl, alike.added fullBounded slimBounded given fun id named => ?_⟩
    rcases names_rebind named with new | bound
    · exact Or.inl new
    · exact Or.inr (.named bound)

theorem Alike.addDependency_same {owner dep : RefId} (ownerGiven : full.Reachable owner)
    (depGiven : full.Reachable dep) :
    SameOutcome Alike (full.addDependency owner dep) (slim.addDependency owner dep) := by
  rw [addDependency, addDependency, alike.inspect_eq ownerGiven]
  exact same_after _ fun found inspected => alike.depended depGiven

theorem Alike.pop_same (collecting : Bool) :
    SameOutcome Alike (full.pop collecting) (slim.pop collecting) := by
  rw [pop, pop, alike.scopes]
  cases scopes : full.scopes with
  | nil => rfl
  | cons innermost outer =>
    have left : Alike { full with scopes := outer } { slim with scopes := outer } := by
      refine alike.rescoped fun id named => .named ?_
      rw [scopes]
      exact names_cons named
    cases collecting with
    | false => exact left
    | true => exact left.collected

theorem Alike.free_same {id : RefId} (given : full.Reachable id) :
    SameOutcome SameResult (full.free id) (slim.free id) := by
  rw [free, free, alike.inspect_eq given]
  exact same_after _ fun removed inspected => ⟨rfl, alike.freed id⟩

end

/-! ## Any request -/

/-- The same reply but for what a collection counts, in memories that are alike. -/
private def SameReply (full slim : Reply α × Memory α) : Prop :=
  slim.1.uncounted = full.1.uncounted ∧ Alike full.2 slim.2

private theorem same_change {β : Type} {full slim : Memory α} (alike : Alike full slim)
    (reply : β → Reply α) {fullOutcome slimOutcome : Except MemoryError (β × Memory α)}
    (same : SameOutcome SameResult fullOutcome slimOutcome) :
    SameReply (full.change reply fullOutcome) (slim.change reply slimOutcome) := by
  cases fullOutcome with
  | error error =>
    cases slimOutcome with
    | error other => exact ⟨congrArg (fun error => (Reply.failed error).uncounted) same, alike⟩
    | ok done => exact same.elim
  | ok done =>
    cases slimOutcome with
    | error other => exact same.elim
    | ok other => exact ⟨congrArg (fun result => (reply result).uncounted) same.1, same.2⟩

private theorem same_ask {β : Type} {full slim : Memory α} (alike : Alike full slim) (reply : β → Reply α)
    {fullOutcome slimOutcome : Except MemoryError β} (same : slimOutcome = fullOutcome) :
    SameReply (full.ask reply fullOutcome) (slim.ask reply slimOutcome) := by
  rw [same]
  cases fullOutcome with
  | error error => exact ⟨rfl, alike⟩
  | ok result => exact ⟨rfl, alike⟩

/-- Memories that are alike answer a request alike and stay alike, if the references that it is
    given are reachable. -/
theorem perform_alike [Traced α] {full slim : Memory α} (alike : Alike full slim)
    (fullBounded : full.Bounded) (slimBounded : slim.Bounded) {request : Request α}
    (given : ∀ id ∈ request.given, full.Reachable id) :
    SameReply (full.perform request) (slim.perform request) := by
  rw [perform_eq_transact full, perform_eq_transact slim]
  cases request with
  | allocate value options =>
    exact same_change alike _ (alike.allocate_same fullBounded slimBounded value given)
  | allocateTraced value options =>
    refine same_change alike _ (alike.allocate_same fullBounded slimBounded value fun id member => ?_)
    rw [RefSet.mem_insertAll] at member
    exact given id (List.mem_append.mpr member)
  | bind name id =>
    exact same_change alike _ (same_unit (alike.bind_same name (given id (List.mem_singleton_self id))))
  | resolve name => exact same_ask alike _ (alike.resolve_eq name)
  | reassign name value deps =>
    exact same_change alike _ (alike.reassign_same fullBounded slimBounded name value given)
  | addDependency owner dep =>
    have ownerGiven := given owner (by simp [Request.given])
    have depGiven := given dep (by simp [Request.given])
    exact same_change alike _ (same_unit (alike.addDependency_same ownerGiven depGiven))
  | push =>
    refine ⟨rfl, ?_⟩
    change Alike { full with scopes := {} :: full.scopes } { slim with scopes := {} :: slim.scopes }
    rw [alike.scopes]
    exact alike.rescoped fun id named => .named (names_push named)
  | pop collecting => exact same_change alike _ (same_unit (alike.pop_same collecting))
  | popDefault =>
    change SameReply (full.transact (.pop full.collectOnPop)) (slim.transact (.pop slim.collectOnPop))
    rw [alike.collectOnPop]
    exact same_change alike _ (same_unit (alike.pop_same full.collectOnPop))
  | collect => exact ⟨rfl, alike.collected⟩
  | get id => exact same_ask alike _ (alike.get_eq (given id (List.mem_singleton_self id)))
  | getByName name => exact same_ask alike _ (alike.getByName_eq name)
  | inspect id => exact same_ask alike _ (alike.inspect_eq (given id (List.mem_singleton_self id)))
  | free id => exact same_change alike _ (alike.free_same (given id (List.mem_singleton_self id)))
  | isLive id =>
    refine ⟨?_, alike⟩
    change Reply.flag (slim.instance? id).isSome = Reply.flag (full.instance? id).isSome
    rw [alike.instances id (given id (List.mem_singleton_self id))]
  | collectsOnPop =>
    refine ⟨?_, alike⟩
    change Reply.flag slim.collectOnPop = Reply.flag full.collectOnPop
    rw [alike.collectOnPop]

/-- Memories that are alike answer any number of requests alike. -/
theorem replies_alike [Traced α] {full slim : Memory α} (alike : Alike full slim)
    (fullBounded : full.Bounded) (slimBounded : slim.Bounded) (requests : List (Request α))
    (given : full.GivenReachable requests) : slim.replies requests = full.replies requests := by
  induction requests generalizing full slim with
  | nil => rfl
  | cons request rest ih =>
    obtain ⟨reachable, later⟩ := given
    obtain ⟨sameReply, stillAlike⟩ := perform_alike alike fullBounded slimBounded reachable
    have laterReplies := ih stillAlike ((perform_change full request).bounded fullBounded)
      ((perform_change slim request).bounded slimBounded) later
    simp only [replies, trace, List.map_cons] at laterReplies ⊢
    rw [sameReply, laterReplies]

/-- A collection does not change what a script is answered, as long as it gives only references that
    its names lead to. -/
theorem replies_collected [Traced α] {memory : Memory α} (arises : memory.Arises)
    (requests : List (Request α)) (given : memory.GivenReachable requests) :
    memory.collect.2.replies requests = memory.replies requests :=
  replies_alike (alike_collect memory) arises.bounded (arises.perform .collect).bounded requests given

/-- A value that a name leads to, and one out of reach. -/
def litter : Memory Value :=
  { instances := [(0, ⟨.int 1, .empty, false⟩), (1, ⟨.int 2, .empty, false⟩)]
    scopes := [⟨[("a", 0)]⟩]
    nextId := 2 }

/-- Requests that close a cycle, take its first name away and collect once more. -/
def litterRequests : List (Request Value) :=
  [.allocate (.int 3) ⟨some "b", .ofList [0], false⟩, .addDependency 0 2,
    .reassign "a" (.int 4) .empty, .get 0, .collect, .getByName "b"]

theorem replies_collected_litter :
    litter.Arises ∧ litter.GivenReachable litterRequests ∧
      litter.collect.2.replies litterRequests = litter.replies litterRequests := by
  have first := Arises.perform (.allocate (Value.int 1) ⟨some "a", .empty, false⟩) (.new true)
  have arises : litter.Arises := first.perform (.allocate (Value.int 2) ⟨none, .empty, false⟩)
  have named {memory : Memory Value} {ids : List RefId} (bound : ∀ id ∈ ids, id ∈ memory.roots) :
      ∀ id ∈ ids, memory.Reachable id := fun id member => .named (mem_roots_iff.mp (bound id member))
  have given : litter.GivenReachable litterRequests := by
    refine ⟨named (by decide), named (by decide), nofun, ?_, nofun, nofun, trivial⟩
    -- The name of #0 is gone, and #2 still depends on it.
    intro id member
    rcases List.mem_singleton.mp member
    have isDep : (0 : RefId) ∈ (RefSet.ofList [0]).ids := by decide
    exact @Reachable.dependency _ _ 2 0 (.named (mem_roots_iff.mp (by decide)))
      ⟨⟨.int 3, .ofList [0], false⟩, rfl, isDep⟩
  exact ⟨arises, given, replies_collected arises litterRequests given⟩

end Memory
end CommandScript
