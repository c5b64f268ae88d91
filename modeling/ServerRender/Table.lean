/-!
# Tables

Finite maps from names to values, kept as lists in the order of their keys by code
point. Inserting a key that is present replaces its value.
-/

namespace ServerRender

structure Table (β : Type u) where
  entries : List (String × β)

namespace Table

variable {β : Type u}

def empty : Table β :=
  ⟨[]⟩

instance : Inhabited (Table β) := ⟨empty⟩

/-- Puts an entry at its place in an ordered list. -/
def insertEntry (key : String) (value : β) : List (String × β) → List (String × β)
  | [] => [(key, value)]
  | (k, v) :: rest =>
    if key = k then (key, value) :: rest
    else if key < k then (key, value) :: (k, v) :: rest
    else (k, v) :: insertEntry key value rest

def insert (table : Table β) (key : String) (value : β) : Table β :=
  ⟨insertEntry key value table.entries⟩

def get? (table : Table β) (key : String) : Option β :=
  (table.entries.find? fun entry => entry.1 == key).map (·.2)

def contains (table : Table β) (key : String) : Bool :=
  (table.get? key).isSome

def erase (table : Table β) (key : String) : Table β :=
  ⟨table.entries.filter fun entry => entry.1 != key⟩

def keys (table : Table β) : List String :=
  table.entries.map (·.1)

def values (table : Table β) : List β :=
  table.entries.map (·.2)

def size (table : Table β) : Nat :=
  table.entries.length

def isEmpty (table : Table β) : Bool :=
  table.entries.isEmpty

def map {γ : Type v} (f : β → γ) (table : Table β) : Table γ :=
  ⟨table.entries.map fun entry => (entry.1, f entry.2)⟩

/-- Inserts the entries of a list one after the other. -/
def ofList (entries : List (String × β)) : Table β :=
  entries.foldl (fun table entry => table.insert entry.1 entry.2) empty

@[simp]
theorem get?_empty (key : String) : (empty : Table β).get? key = none := rfl

private theorem find?_insertEntry (key other : String) (value : β) (entries : List (String × β)) :
    (insertEntry key value entries).find? (fun entry => entry.1 == other)
      = if key = other then some (key, value) else entries.find? (fun entry => entry.1 == other) := by
  induction entries with
  | nil => by_cases h : key = other <;> simp [insertEntry, h]
  | cons entry rest ih =>
    obtain ⟨k, v⟩ := entry
    by_cases hk : key = k
    · subst hk
      by_cases h : key = other <;> simp [insertEntry, h]
    · by_cases hlt : key < k
      · have hstep : insertEntry key value ((k, v) :: rest) = (key, value) :: (k, v) :: rest := by
          simp [insertEntry, hk, hlt]
        rw [hstep, List.find?_cons]
        by_cases h : key = other
        · simp [h]
        · simp only [beq_eq_false_iff_ne.2 h, if_neg h]
      · have hstep : insertEntry key value ((k, v) :: rest)
            = (k, v) :: insertEntry key value rest := by
          simp [insertEntry, hk, hlt]
        rw [hstep, List.find?_cons, List.find?_cons, ih]
        by_cases h : key = other
        · have hk' : (k == other) = false := by simpa using fun hko => hk (h.trans hko.symm)
          simp [h, hk']
        · simp [h]

theorem get?_insert (table : Table β) (key other : String) (value : β) :
    (table.insert key value).get? other = if key = other then some value else table.get? other := by
  unfold insert get?
  rw [find?_insertEntry]
  split <;> rfl

theorem get?_erase (table : Table β) (key other : String) :
    (table.erase key).get? other = if key = other then none else table.get? other := by
  unfold erase get?
  simp only [List.find?_filter]
  by_cases h : key = other
  · subst h
    rw [if_pos rfl, List.find?_eq_none.2 (by simp), Option.map_none]
  · rw [if_neg h]
    congr 2
    funext entry
    by_cases ho : entry.1 = other
    · simp [ho, Ne.symm h]
    · simp [ho]

theorem contains_iff_mem_keys (table : Table β) (key : String) :
    table.contains key = true ↔ key ∈ table.keys := by
  simp [contains, get?, keys, List.find?_isSome]

end Table

end ServerRender
