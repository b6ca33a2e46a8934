/-! Finite sets of references, in increasing order, so that equal sets are the same value. -/
namespace CommandScript

/-- A reference names one allocation for ever. -/
abbrev RefId := Nat

/-- How a reference is written. -/
def RefId.label (id : RefId) : String := "#" ++ toString id

/-- A finite set of references. -/
structure RefSet where
  ids : List RefId
  increasing : ids.Pairwise (· < ·)
deriving DecidableEq

namespace RefSet

instance : Membership RefId RefSet := ⟨fun set id => id ∈ set.ids⟩

theorem mem_iff {set : RefSet} {id : RefId} : id ∈ set ↔ id ∈ set.ids := Iff.rfl

def empty : RefSet := ⟨[], .nil⟩

/-- Puts a reference in its place among increasing ones, unless it is there. -/
def insertIds (id : RefId) : List RefId → List RefId
  | [] => [id]
  | first :: rest =>
    if id < first then id :: first :: rest
    else if id = first then first :: rest
    else first :: insertIds id rest

theorem mem_insertIds {x id : RefId} {ids : List RefId} : x ∈ insertIds id ids ↔ x = id ∨ x ∈ ids := by
  induction ids with
  | nil => simp [insertIds]
  | cons first rest ih => grind [insertIds]

theorem increasing_insertIds {id : RefId} {ids : List RefId} (increasing : ids.Pairwise (· < ·)) :
    (insertIds id ids).Pairwise (· < ·) := by
  induction ids with
  | nil => simp [insertIds]
  | cons first rest ih => grind [insertIds, mem_insertIds, List.pairwise_cons]

def insert (set : RefSet) (id : RefId) : RefSet :=
  ⟨insertIds id set.ids, increasing_insertIds set.increasing⟩

@[simp] theorem mem_insert {set : RefSet} {x id : RefId} : x ∈ set.insert id ↔ x = id ∨ x ∈ set :=
  mem_insertIds

/-- Adds several references. -/
def insertAll (set : RefSet) (ids : List RefId) : RefSet := ids.foldl insert set

@[simp] theorem mem_insertAll {set : RefSet} {x : RefId} {ids : List RefId} :
    x ∈ set.insertAll ids ↔ x ∈ set ∨ x ∈ ids := by
  induction ids generalizing set with
  | nil => simp [insertAll]
  | cons id rest ih =>
    have step : set.insertAll (id :: rest) = (set.insert id).insertAll rest := rfl
    rw [step, ih, mem_insert, List.mem_cons]
    grind

def ofList (ids : List RefId) : RefSet := empty.insertAll ids

@[simp] theorem mem_ofList {x : RefId} {ids : List RefId} : x ∈ ofList ids ↔ x ∈ ids := by
  simp only [ofList, mem_insertAll]
  simp [mem_iff, empty]

end RefSet
end CommandScript
