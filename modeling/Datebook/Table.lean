/-!
Finite maps.

A `Table` holds at most one value per key, in the order in which the keys first came. Main
statements: `get?_insert`, `get?_erase` and `get?_filter` say what each change does to every
look-up; `filter_insert_of_kept` and `filter_insert_of_dropped` what a change does to the part that
a filter leaves; `get?_map`, `map_insert` and `map_erase` what it does to a table whose values are
mapped.
-/

set_option autoImplicit false

namespace Datebook

variable {κ α : Type} [DecidableEq κ]

namespace Entries

/-- The value of the first entry with a key. -/
def find? (key : κ) : List (κ × α) → Option α
  | [] => none
  | entry :: rest => if entry.1 = key then some entry.2 else find? key rest

/-- Gives a key a value, in its place or at the end. -/
def put (key : κ) (value : α) : List (κ × α) → List (κ × α)
  | [] => [(key, value)]
  | entry :: rest =>
    if entry.1 = key then (key, value) :: rest else entry :: put key value rest

theorem keys_put (key : κ) (value : α) (entries : List (κ × α)) :
    (put key value entries).map (·.1) =
      if key ∈ entries.map (·.1) then entries.map (·.1) else entries.map (·.1) ++ [key] := by
  induction entries with
  | nil => simp [put]
  | cons entry rest ih =>
    by_cases same : entry.1 = key
    · simp [put, same]
    · have other : key ≠ entry.1 := fun e => same e.symm
      simp only [put, if_neg same, List.map_cons, ih, List.mem_cons, other, false_or]
      split <;> simp

theorem find?_put (key other : κ) (value : α) (entries : List (κ × α)) :
    find? other (put key value entries) =
      if key = other then some value else find? other entries := by
  induction entries with
  | nil => simp [put, find?]
  | cons entry rest ih =>
    by_cases same : entry.1 = key <;> by_cases wanted : key = other <;>
      grind [put, find?]

theorem find?_eq_none (key : κ) (entries : List (κ × α)) :
    find? key entries = none ↔ key ∉ entries.map (·.1) := by
  induction entries with
  | nil => simp [find?]
  | cons entry rest ih => grind [find?]

/-- A key that is not among the first entries is put behind them. -/
theorem put_append_of_absent (key : κ) (value : α) (front back : List (κ × α))
    (absent : key ∉ front.map (·.1)) :
    put key value (front ++ back) = front ++ put key value back := by
  induction front with
  | nil => rfl
  | cons entry rest ih =>
    simp only [List.map_cons, List.mem_cons, not_or] at absent
    have other : entry.1 ≠ key := fun same => absent.1 same.symm
    rw [List.cons_append, put, if_neg other, ih absent.2, List.cons_append]

/-- A new key comes last. -/
theorem put_of_absent (key : κ) (value : α) (entries : List (κ × α))
    (absent : key ∉ entries.map (·.1)) : put key value entries = entries ++ [(key, value)] := by
  have last := put_append_of_absent key value entries [] absent
  rwa [List.append_nil] at last

theorem mem_of_find?_eq_some (key : κ) (value : α) (entries : List (κ × α))
    (found : find? key entries = some value) : (key, value) ∈ entries := by
  induction entries with
  | nil => simp [find?] at found
  | cons entry rest ih => grind [find?]

theorem find?_eq_some_of_mem (key : κ) (value : α) (entries : List (κ × α))
    (distinct : (entries.map (·.1)).Nodup) (member : (key, value) ∈ entries) :
    find? key entries = some value := by
  induction entries with
  | nil => simp at member
  | cons entry rest ih =>
    simp only [List.map_cons, List.nodup_cons] at distinct
    rcases List.mem_cons.1 member with same | later
    · simp [find?, ← same]
    · have elsewhere : entry.1 ≠ key := by
        intro same
        exact distinct.1 (List.mem_map.2 ⟨(key, value), later, same.symm⟩)
      simp [find?, elsewhere, ih distinct.2 later]

/-- A filter that keeps all values of a key can come before or after a change to it. -/
theorem filter_put_of_kept {keep : κ × α → Bool} {key : κ} {value : α} {entries : List (κ × α)}
    (kept : keep (key, value) = true)
    (before : ∀ old, find? key entries = some old → keep (key, old) = true) :
    (put key value entries).filter keep = put key value (entries.filter keep) := by
  induction entries with
  | nil => simp [put, kept]
  | cons entry rest ih =>
    obtain ⟨other, old⟩ := entry
    by_cases same : other = key
    · subst same
      have stays : keep (other, old) = true := before old (by simp [find?])
      simp [put, kept, stays]
    · have later := ih fun old found => before old (by simpa [find?, same] using found)
      by_cases stays : keep (other, old) = true <;> simp [put, same, stays, later]

/-- A filter that drops all values of a key does not see a change to it. -/
theorem filter_put_of_dropped {keep : κ × α → Bool} {key : κ} {value : α}
    {entries : List (κ × α)} (dropped : keep (key, value) = false)
    (before : ∀ old, find? key entries = some old → keep (key, old) = false) :
    (put key value entries).filter keep = entries.filter keep := by
  induction entries with
  | nil => simp [put, dropped]
  | cons entry rest ih =>
    obtain ⟨other, old⟩ := entry
    by_cases same : other = key
    · subst same
      have goes : keep (other, old) = false := before old (by simp [find?])
      simp [put, dropped, goes]
    · have later := ih fun old found => before old (by simpa [find?, same] using found)
      by_cases stays : keep (other, old) = true <;> simp [put, same, stays, later]

section

variable {β : Type} (f : α → β)

theorem find?_map (key : κ) (entries : List (κ × α)) :
    find? key (entries.map fun entry => (entry.1, f entry.2)) = (find? key entries).map f := by
  induction entries with
  | nil => rfl
  | cons entry rest ih =>
    rw [List.map_cons, find?, find?, ih]
    split <;> rfl

theorem map_put (key : κ) (value : α) (entries : List (κ × α)) :
    (put key value entries).map (fun entry => (entry.1, f entry.2)) =
      put key (f value) (entries.map fun entry => (entry.1, f entry.2)) := by
  induction entries with
  | nil => rfl
  | cons entry rest ih =>
    rw [List.map_cons, put, put, ← ih]
    split <;> rfl

end

end Entries

structure Table (κ α : Type) [DecidableEq κ] where
  entries : List (κ × α)
  distinct : (entries.map (·.1)).Nodup

namespace Table

def empty : Table κ α :=
  ⟨[], by simp⟩

def get? (table : Table κ α) (key : κ) : Option α :=
  Entries.find? key table.entries

def contains (table : Table κ α) (key : κ) : Bool :=
  (table.get? key).isSome

/-- The values, in the order in which their keys first came. -/
def values (table : Table κ α) : List α :=
  table.entries.map (·.2)

def size (table : Table κ α) : Nat :=
  table.entries.length

def insert (table : Table κ α) (key : κ) (value : α) : Table κ α :=
  ⟨Entries.put key value table.entries, by
    rw [Entries.keys_put]
    have distinct := table.distinct
    split
    · exact distinct
    · next absent => exact List.nodup_append.2 ⟨distinct, by simp, by grind⟩⟩

/-- Keeps the values that satisfy a test. -/
def filter (table : Table κ α) (keep : κ → α → Bool) : Table κ α :=
  ⟨table.entries.filter fun entry => keep entry.1 entry.2,
    table.distinct.sublist (List.filter_sublist.map _)⟩

def erase (table : Table κ α) (key : κ) : Table κ α :=
  table.filter fun other _ => other ≠ key

theorem ext_entries {left right : Table κ α} (same : left.entries = right.entries) :
    left = right := by
  cases left
  cases right
  cases same
  rfl

theorem entries_insert_of_absent (table : Table κ α) {key : κ} (value : α)
    (absent : table.get? key = none) :
    (table.insert key value).entries = table.entries ++ [(key, value)] :=
  Entries.put_of_absent key value _ ((Entries.find?_eq_none key _).mp absent)

theorem get?_insert (table : Table κ α) (key other : κ) (value : α) :
    (table.insert key value).get? other = if key = other then some value else table.get? other :=
  Entries.find?_put key other value table.entries

theorem get?_eq_some_iff (table : Table κ α) (key : κ) (value : α) :
    table.get? key = some value ↔ (key, value) ∈ table.entries :=
  ⟨Entries.mem_of_find?_eq_some key value _,
    Entries.find?_eq_some_of_mem key value _ table.distinct⟩

theorem get?_filter (table : Table κ α) (keep : κ → α → Bool) (key : κ) :
    (table.filter keep).get? key = (table.get? key).filter (keep key) := by
  apply Option.ext
  intro value
  simp only [get?_eq_some_iff, Option.filter_eq_some_iff, filter, List.mem_filter]

theorem get?_erase (table : Table κ α) (key other : κ) :
    (table.erase key).get? other = if key = other then none else table.get? other := by
  rw [erase, get?_filter]
  by_cases same : key = other
  · subst same
    cases table.get? key <;> simp
  · have differ : other ≠ key := fun e => same e.symm
    cases table.get? other <;> simp [same, differ]

theorem filter_insert_of_kept {table : Table κ α} {keep : κ → α → Bool} {key : κ} {value : α}
    (kept : keep key value = true)
    (before : ∀ old, table.get? key = some old → keep key old = true) :
    (table.insert key value).filter keep = (table.filter keep).insert key value :=
  ext_entries (Entries.filter_put_of_kept kept before)

theorem filter_insert_of_dropped {table : Table κ α} {keep : κ → α → Bool} {key : κ} {value : α}
    (dropped : keep key value = false)
    (before : ∀ old, table.get? key = some old → keep key old = false) :
    (table.insert key value).filter keep = table.filter keep :=
  ext_entries (Entries.filter_put_of_dropped dropped before)

theorem filter_filter (table : Table κ α) (first second : κ → α → Bool) :
    (table.filter first).filter second =
      table.filter fun key value => second key value && first key value :=
  ext_entries List.filter_filter

theorem filter_congr {table : Table κ α} {first second : κ → α → Bool}
    (same : ∀ key value, table.get? key = some value → first key value = second key value) :
    table.filter first = table.filter second :=
  ext_entries (List.filter_congr fun entry member =>
    same entry.1 entry.2 ((get?_eq_some_iff table _ _).mpr member))

theorem values_filter (table : Table κ α) (wanted : α → Bool) :
    (table.filter fun _ value => wanted value).values = table.values.filter wanted := by
  simp only [values, filter, List.filter_map]
  rfl

theorem mem_values_iff (table : Table κ α) (value : α) :
    value ∈ table.values ↔ ∃ key, table.get? key = some value := by
  simp only [values, List.mem_map, get?_eq_some_iff]
  constructor
  · rintro ⟨entry, member, rfl⟩
    exact ⟨entry.1, member⟩
  · rintro ⟨key, member⟩
    exact ⟨(key, value), member, rfl⟩

section

variable {β : Type} (f : α → β)

/-- Changes every value. -/
def map (table : Table κ α) : Table κ β :=
  ⟨table.entries.map fun entry => (entry.1, f entry.2), by
    rw [List.map_map]
    exact table.distinct⟩

theorem get?_map (table : Table κ α) (key : κ) : (table.map f).get? key = (table.get? key).map f :=
  Entries.find?_map f key table.entries

theorem map_insert (table : Table κ α) (key : κ) (value : α) :
    (table.insert key value).map f = (table.map f).insert key (f value) :=
  ext_entries (Entries.map_put f key value table.entries)

theorem map_erase (table : Table κ α) (key : κ) :
    (table.erase key).map f = (table.map f).erase key := by
  refine ext_entries ?_
  simp only [map, erase, filter, List.filter_map]
  rfl

end

end Table

end Datebook
