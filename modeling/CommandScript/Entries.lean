/-!
Lists of keyed entries in which a key is written once, in the order in which the
keys came. What is put under a key last is what the key leads to.
-/
namespace CommandScript.Entries
variable {κ α : Type} [DecidableEq κ]

/-- What a key leads to is one of the entries. -/
theorem mem_of_lookup {key : κ} {value : α} {entries : List (κ × α)}
    (found : entries.lookup key = some value) : (key, value) ∈ entries := by
  obtain ⟨before, after, parts, _⟩ := List.lookup_eq_some_iff.mp found
  rw [parts]
  exact List.mem_append_right before (List.mem_cons_self ..)

/-- Where a key is written once, each entry is what its key leads to. -/
theorem lookup_of_mem {key : κ} {value : α} {entries : List (κ × α)} (distinct : (entries.map (·.1)).Nodup)
    (member : (key, value) ∈ entries) : entries.lookup key = some value := by
  induction entries with
  | nil => contradiction
  | cons first rest ih =>
    obtain ⟨absent, distinct⟩ := List.nodup_cons.mp distinct
    rcases List.mem_cons.mp member with rfl | later
    · exact List.lookup_cons_self
    · have other : (key == first.1) = false := by
        rw [beq_eq_false_iff_ne]
        rintro rfl
        exact absent (List.mem_map.mpr ⟨_, later, rfl⟩)
      rw [List.lookup_cons, other]
      exact ih distinct later

/-- Puts a value under a key. A key that has an entry keeps its place. -/
def put (key : κ) (value : α) : List (κ × α) → List (κ × α)
  | [] => [(key, value)]
  | (held, old) :: rest =>
    if held = key then (key, value) :: rest else (held, old) :: put key value rest

theorem lookup_put {key other : κ} {value : α} {entries : List (κ × α)} :
    (put key value entries).lookup other = if other = key then some value else entries.lookup other := by
  induction entries with
  | nil => grind [put]
  | cons entry rest ih => grind [put]

theorem mem_keys_put {key other : κ} {value : α} {entries : List (κ × α)} :
    other ∈ (put key value entries).map (·.1) ↔ other = key ∨ other ∈ entries.map (·.1) := by
  induction entries with
  | nil => simp [put]
  | cons entry rest ih => grind [put]

theorem mem_put {key : κ} {value : α} {entry : κ × α} {entries : List (κ × α)}
    (member : entry ∈ put key value entries) : entry = (key, value) ∨ entry ∈ entries := by
  induction entries with
  | nil => exact .inl (by simpa [put] using member)
  | cons first rest ih => grind [put]

/-- A key that is there already keeps its place. -/
theorem keys_put_of_lookup {key : κ} {value : α} {entries : List (κ × α)} (present : (entries.lookup key).isSome) :
    (put key value entries).map (·.1) = entries.map (·.1) := by
  induction entries with
  | nil => simp at present
  | cons entry rest ih => grind [put]

theorem nodup_keys_put {key : κ} {value : α} {entries : List (κ × α)}
    (distinct : (entries.map (·.1)).Nodup) : ((put key value entries).map (·.1)).Nodup := by
  induction entries with
  | nil => simp [put]
  | cons entry rest ih => grind [put, mem_keys_put, List.nodup_cons]

/-- Entries chosen by their keys. -/
theorem lookup_filter (chosen : κ → Bool) (key : κ) (entries : List (κ × α)) :
    (entries.filter (chosen ·.1)).lookup key = if chosen key then entries.lookup key else none := by
  induction entries with
  | nil => simp
  | cons entry rest ih =>
    obtain ⟨held, value⟩ := entry
    by_cases same : key = held
    · subst same
      cases keeps : chosen key
      · simpa [keeps] using ih
      · simp [keeps]
    · have different : (key == held) = false := by simp [same]
      cases keeps : chosen held
      · simp [keeps, ih, List.lookup_cons, different]
      · simp [keeps, ih, List.lookup_cons, different]

/-- Puts several entries in a row. -/
def putAll (entries added : List (κ × α)) : List (κ × α) :=
  added.foldl (fun held entry => put entry.1 entry.2 held) entries

theorem putAll_cons (entries added : List (κ × α)) (entry : κ × α) :
    putAll entries (entry :: added) = putAll (put entry.1 entry.2 entries) added := rfl

theorem lookup_putAll {entries added : List (κ × α)} {key : κ} :
    (putAll entries added).lookup key = (added.reverse.lookup key).or (entries.lookup key) := by
  induction added generalizing entries with
  | nil => simp [putAll]
  | cons entry rest ih =>
    rw [putAll_cons, ih, lookup_put, List.reverse_cons, List.lookup_append, Option.or_assoc]
    grind

theorem nodup_keys_putAll {entries added : List (κ × α)} (distinct : (entries.map (·.1)).Nodup) :
    ((putAll entries added).map (·.1)).Nodup := by
  induction added generalizing entries with
  | nil => exact distinct
  | cons entry rest ih => exact ih (nodup_keys_put distinct)

/-- The entries in which each key leads to the last value that it is given with. -/
def ofList (entries : List (κ × α)) : List (κ × α) := putAll [] entries

theorem lookup_ofList {entries : List (κ × α)} {key : κ} :
    (ofList entries).lookup key = entries.reverse.lookup key := by simp [ofList, lookup_putAll]

theorem nodup_keys_ofList {entries : List (κ × α)} : ((ofList entries).map (·.1)).Nodup :=
  nodup_keys_putAll List.nodup_nil

/-- The entry of a key holds the last value that is given for it. -/
theorem mem_ofList {entries : List (κ × α)} {key : κ} {value : α} :
    (key, value) ∈ ofList entries ↔ entries.reverse.lookup key = some value := by
  rw [← lookup_ofList]
  exact ⟨lookup_of_mem nodup_keys_ofList, mem_of_lookup⟩

end CommandScript.Entries
