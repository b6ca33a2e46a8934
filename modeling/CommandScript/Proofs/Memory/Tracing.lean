import CommandScript.Proofs.Memory.Closure
import CommandScript.Proofs.Memory.Issue

/-!
What a traced allocation keeps alive. The references of a value are just those that stand somewhere in
it (`mem_references_iff`), and an instance that was allocated with them depends on them as long as it is
live (`captured_after`). So a collection that keeps the instance keeps what they lead to as well.
-/
namespace CommandScript

/-! ## What stands in a value -/

/-- A value stands in another one, at any depth. A map holds its keys as well as what they lead to. -/
inductive Value.Within (inner : Value) : Value → Prop
  | self : Within inner inner
  | present {value : Value} (within : Within inner value) : Within inner (.present value)
  | element {form : Sequence} {values : List Value} {value : Value} (held : value ∈ values)
    (within : Within inner value) : Within inner (.sequence form values)
  | member {form : Collection} {values : List Value} {value : Value} (held : value ∈ values)
    (within : Within inner value) : Within inner (.set form values)
  | key {form : Collection} {entries : List (Value × Value)} {key value : Value} (held : (key, value) ∈ entries)
    (within : Within inner key) : Within inner (.map form entries)
  | entry {form : Collection} {entries : List (Value × Value)} {key value : Value} (held : (key, value) ∈ entries)
    (within : Within inner value) : Within inner (.map form entries)

namespace Value
variable {id : RefId}

/-- A reference stands in a value of a list. -/
def AmongAll (id : RefId) (values : List Value) : Prop := ∃ value ∈ values, Within (.ref id) value

/-- A reference stands in a key of a list of entries, or in what a key leads to. -/
def AmongEntries (id : RefId) (entries : List (Value × Value)) : Prop :=
  ∃ entry ∈ entries, Within (.ref id) entry.1 ∨ Within (.ref id) entry.2

theorem within_sequence {form : Sequence} {values : List Value} :
    Within (.ref id) (.sequence form values) ↔ AmongAll id values := by
  constructor
  · rintro (_ | _ | ⟨held, within⟩)
    exact ⟨_, held, within⟩
  · rintro ⟨value, held, within⟩
    exact .element held within

theorem within_set {form : Collection} {values : List Value} :
    Within (.ref id) (.set form values) ↔ AmongAll id values := by
  constructor
  · rintro (_ | _ | _ | ⟨held, within⟩)
    exact ⟨_, held, within⟩
  · rintro ⟨value, held, within⟩
    exact .member held within

theorem within_map {form : Collection} {entries : List (Value × Value)} :
    Within (.ref id) (.map form entries) ↔ AmongEntries id entries := by
  constructor
  · rintro (_ | _ | _ | _ | ⟨held, within⟩ | ⟨held, within⟩)
    · exact ⟨_, held, Or.inl within⟩
    · exact ⟨_, held, Or.inr within⟩
  · rintro ⟨⟨key, value⟩, held, within | within⟩
    · exact .key held within
    · exact .entry held within

theorem within_present {value : Value} : Within (.ref id) (.present value) ↔ Within (.ref id) value := by
  constructor
  · rintro (_ | within)
    exact within
  · exact .present

theorem within_ref {other : RefId} : Within (.ref id) (.ref other) ↔ id = other := by
  constructor
  · rintro (_ | _)
    rfl
  · rintro rfl
    exact .self

/-- What a list of values holds stands in the first of them or in the others. -/
theorem amongAll_cons {value : Value} {rest : List Value} :
    AmongAll id (value :: rest) ↔ Within (.ref id) value ∨ AmongAll id rest := by
  simp [AmongAll]

theorem amongEntries_cons {key value : Value} {rest : List (Value × Value)} :
    AmongEntries id ((key, value) :: rest) ↔
      (Within (.ref id) key ∨ Within (.ref id) value) ∨ AmongEntries id rest := by
  simp [AmongEntries]

mutual

/-- Tracing a value adds to what was found before the references that stand in the value. -/
theorem mem_trace {found : RefSet} :
    (value : Value) → (id ∈ trace found value ↔ id ∈ found ∨ Within (.ref id) value)
  | .ref other => by rw [trace, RefSet.mem_insert, within_ref, or_comm]
  | .present value => by rw [trace, mem_trace value, within_present]
  | .sequence _ values => by rw [trace, mem_traceAll values, within_sequence]
  | .set _ values => by rw [trace, mem_traceAll values, within_set]
  | .map _ entries => by rw [trace, mem_traceEntries entries, within_map]
  | .nothing | .bool _ | .int _ | .float _ | .char _ | .text _ | .absent => by
    rw [trace, or_iff_left]
    rintro (_ | _)

theorem mem_traceAll {found : RefSet} :
    (values : List Value) → (id ∈ traceAll found values ↔ id ∈ found ∨ AmongAll id values)
  | [] => by simp [traceAll, AmongAll]
  | value :: rest => by rw [traceAll, mem_traceAll rest, mem_trace value, amongAll_cons, or_assoc]

theorem mem_traceEntries {found : RefSet} :
    (entries : List (Value × Value)) → (id ∈ traceEntries found entries ↔ id ∈ found ∨ AmongEntries id entries)
  | [] => by simp [traceEntries, AmongEntries]
  | (key, value) :: rest => by
    rw [traceEntries, mem_traceEntries rest, mem_trace value, mem_trace key, amongEntries_cons, or_assoc, or_assoc,
      or_assoc]

end

/-- The references of a value are those that stand in it. -/
theorem mem_references_iff {value : Value} : id ∈ value.references ↔ Within (.ref id) value := by
  rw [references, mem_trace, or_iff_right]
  exact List.not_mem_nil

/-- A map from references holds its keys, and what stands in the last value that is given for each of them. -/
theorem mem_references_ofEntries {entries : List (RefId × Value)} : id ∈ (ofEntries entries).references ↔
    ∃ key value, entries.reverse.lookup key = some value ∧ (id = key ∨ Within (.ref id) value) := by
  rw [mem_references_iff, ofEntries, within_map]
  constructor
  · rintro ⟨_, held, within⟩
    obtain ⟨⟨key, value⟩, member, rfl⟩ := List.mem_map.mp held
    exact ⟨key, value, Entries.mem_ofList.mp member, within.imp_left within_ref.mp⟩
  · rintro ⟨key, value, last, within⟩
    exact ⟨_, List.mem_map_of_mem (Entries.mem_ofList.mpr last), within.imp_left within_ref.mpr⟩

end Value

/-! ## What an instance keeps alive -/

namespace Memory
variable {α : Type} {memory : Memory α} {first id : RefId}

/-- Dependencies of live instances, none or more of them, lead from one reference to another. -/
inductive LeadsTo (memory : Memory α) (first : RefId) : RefId → Prop
  | refl : LeadsTo memory first first
  | dependency {owner dep : RefId} (leads : LeadsTo memory first owner) (edge : memory.DependsOn owner dep) :
    LeadsTo memory first dep

theorem Reachable.leadsTo (reachable : memory.Reachable first) (leads : memory.LeadsTo first id) :
    memory.Reachable id := by
  induction leads with
  | refl => exact reachable
  | dependency _ edge ih => exact .dependency ih edge

/-- A collection leaves what is reachable as it is. -/
theorem instance?_collect_of_reachable (reachable : memory.Reachable id) :
    memory.collect.2.instance? id = memory.instance? id := by
  rw [(collected_collect memory).instance?_eq, if_pos reachable]

section
variable [Traced α] {next : Memory α} {value : α} {options : Allocation} {new : RefId}

/-- A traced allocation issues a reference for an instance that depends on what the value holds and on
    what it is given besides. -/
theorem issue?_of_allocateTraced
    (allocated : memory.perform (.allocateTraced value options) = (.reference new, next)) :
    (Request.allocateTraced value options).issue? (memory.perform (.allocateTraced value options)).1 =
      some (new, ⟨value, options.deps.insertAll (Traced.references value).ids, options.constant⟩) := by
  rw [allocated]
  rfl

/-- As long as it is live, an instance that was allocated with the references of its value depends on
    them, and on what it was given besides. -/
theorem captured_after (bounded : memory.Bounded)
    (allocated : memory.perform (.allocateTraced value options) = (.reference new, next))
    {later : List (Request α)} (live : (next.after later).isLive new)
    (captured : id ∈ Traced.references value ∨ id ∈ options.deps) : (next.after later).DependsOn new id := by
  have step := memory.perform_step (.allocateTraced value options)
  have onward := (perform_change memory (.allocateTraced value options)).bounded bounded
  have born := step.issue_live bounded (issue?_of_allocateTraced allocated)
  rw [allocated] at born onward
  obtain ⟨found, stillLive⟩ := isLive_iff.mp live
  obtain ⟨_, _, deps⟩ := grown_after onward born stillLive
  exact ⟨found, stillLive, (deps id).mpr (Or.inl (RefSet.mem_insertAll.mpr captured.symm))⟩

end

/-- The references of a value are exactly those that stand somewhere in it. Wherever a traced allocation of
    the value succeeds, and whatever is asked for behind it: while the new instance is live and reachable, a
    collection leaves everything that such a reference or one of the dependencies given leads to as it is. -/
theorem captured_kept (value : Value) :
    (∀ id, id ∈ value.references ↔ Value.Within (.ref id) value) ∧
      ∀ (memory : Memory Value) (options : Allocation) (new : RefId) (next : Memory Value)
        (later : List (Request Value)),
        memory.Arises → memory.perform (.allocateTraced value options) = (.reference new, next) →
        (next.after later).isLive new → (next.after later).Reachable new →
        ∀ captured, Value.Within (.ref captured) value ∨ captured ∈ options.deps →
          ∀ id, (next.after later).LeadsTo captured id →
            ((next.after later).perform .collect).2.instance? id = (next.after later).instance? id := by
  refine ⟨fun id => Value.mem_references_iff, ?_⟩
  intro memory options new next later arises allocated live reachable captured held id leads
  have edge := captured_after arises.bounded allocated live (held.imp_left Value.mem_references_iff.mpr)
  exact instance?_collect_of_reachable ((reachable.dependency edge).leadsTo leads)

/-- Two instances, the second of which depends on the first. -/
def pairRequests : List (Request Value) :=
  [.allocate (.int 1) ⟨none, .empty, false⟩, .allocate (.int 2) ⟨none, .ofList [0], false⟩]

/-- A tuple with a reference as a key of a map, in a set of options. -/
def capturing : Value :=
  .sequence .tuple [.text "a", .set .ordered [.present (.map .hashed [(.ref 1, .sequence .array [])]), .absent]]

/-- What only the key of a map leads to survives. -/
theorem captured_kept_key :
    capturing.references.ids = [1] ∧
      ((({} : Memory Value).after
        (pairRequests ++ [.allocateTraced capturing ⟨some "a", .empty, false⟩, .push])).perform .collect).2.isLive 0 =
          true := by
  let memory := ({} : Memory Value).after pairRequests
  let next := (memory.perform (.allocateTraced capturing ⟨some "a", .empty, false⟩)).2
  have arises : memory.Arises := Arises.after (.new true) pairRequests
  have named : (next.after [.push]).Reachable 2 := .named ⟨⟨[("a", 2)]⟩, by decide, "a", by decide⟩
  have key : Value.Within (.ref 1) capturing :=
    .element (List.mem_cons_of_mem _ (List.mem_singleton_self _))
      (.member (List.mem_cons_self ..) (.present (.key (List.mem_singleton_self _) .self)))
  have leads : (next.after [.push]).LeadsTo 1 0 := .dependency .refl ⟨_, rfl, RefSet.mem_ofList.mpr (by decide)⟩
  obtain ⟨references, kept⟩ := captured_kept capturing
  have survives := kept memory ⟨some "a", .empty, false⟩ 2 next [.push] arises rfl rfl named 1 (Or.inl key) 0 leads
  refine ⟨rfl, ?_⟩
  exact congrArg Option.isSome survives

end Memory
end CommandScript
