/-!
# Keyed collections

A collection of values under distinct texts. The entries are kept in ascending order of their keys,
so a listing never depends on the order of insertion.
-/

namespace InfobaseGateway

/-- Values under distinct keys, in ascending order of the keys. -/
structure Keyed (α : Type) where
  entries : List (String × α)
  ascending : entries.Pairwise fun a b => a.1 < b.1

namespace Keyed

variable {α : Type}

instance [DecidableEq α] : DecidableEq (Keyed α) := fun a b =>
  decidable_of_iff (a.entries = b.entries) (by cases a; cases b; simp)

def empty : Keyed α :=
  ⟨[], .nil⟩

def get? (values : Keyed α) (key : String) : Option α :=
  values.entries.lookup key

def contains (values : Keyed α) (key : String) : Bool :=
  (values.get? key).isSome

/-- All values, in ascending order of their keys. -/
def toList (values : Keyed α) : List α :=
  values.entries.map (·.2)

def size (values : Keyed α) : Nat :=
  values.entries.length

/-- Puts an entry in its place, over the one with its key if there is one. -/
def insertEntry (key : String) (value : α) : List (String × α) → List (String × α)
  | [] => [(key, value)]
  | entry :: entries =>
    if key < entry.1 then (key, value) :: entry :: entries
    else if key = entry.1 then (key, value) :: entries
    else entry :: insertEntry key value entries

theorem key_of_mem_insertEntry {key : String} {value : α} {entries : List (String × α)}
    {entry : String × α} (h : entry ∈ insertEntry key value entries) :
    entry.1 = key ∨ entry ∈ entries := by
  induction entries with
  | nil => simp_all [insertEntry]
  | cons head tail ih =>
    simp only [insertEntry] at h
    split at h
    · rcases List.mem_cons.mp h with rfl | h
      · exact .inl rfl
      · exact .inr h
    · split at h
      · rcases List.mem_cons.mp h with rfl | h
        · exact .inl rfl
        · exact .inr (List.mem_cons_of_mem _ h)
      · rcases List.mem_cons.mp h with rfl | h
        · exact .inr List.mem_cons_self
        · exact (ih h).imp id (List.mem_cons_of_mem _)

theorem insertEntry_ascending {key : String} {value : α} {entries : List (String × α)}
    (h : entries.Pairwise fun a b => a.1 < b.1) :
    (insertEntry key value entries).Pairwise fun a b => a.1 < b.1 := by
  induction entries with
  | nil => simp [insertEntry]
  | cons head tail ih =>
    obtain ⟨first, rest⟩ := List.pairwise_cons.mp h
    simp only [insertEntry]
    split
    · next lower =>
      refine List.pairwise_cons.mpr ⟨fun entry member => ?_, h⟩
      rcases List.mem_cons.mp member with rfl | member
      · exact lower
      · exact String.lt_trans lower (first entry member)
    · next notLower =>
      split
      · next same =>
        exact List.pairwise_cons.mpr ⟨fun entry member => same ▸ first entry member, rest⟩
      · next different =>
        refine List.pairwise_cons.mpr ⟨fun entry member => ?_, ih rest⟩
        rcases key_of_mem_insertEntry member with same | member
        · exact same ▸ Std.lt_of_le_of_ne (String.not_lt.mp notLower) (Ne.symm different)
        · exact first entry member

theorem lookup_cons_ite (entry : String × α) (entries : List (String × α)) (key : String) :
    (entry :: entries).lookup key = if key = entry.1 then some entry.2 else entries.lookup key := by
  rw [List.lookup_cons]
  by_cases same : key = entry.1
  · simp [same]
  · simp [beq_eq_false_iff_ne.mpr same, same]

theorem lookup_insertEntry (key other : String) (value : α) (entries : List (String × α)) :
    (insertEntry key value entries).lookup other =
      if other = key then some value else entries.lookup other := by
  induction entries with
  | nil => simp [insertEntry, lookup_cons_ite]
  | cons head tail ih =>
    simp only [insertEntry]
    split
    · simp only [lookup_cons_ite]
    · split
      · next equal => simp only [lookup_cons_ite, equal]; grind
      · next different => simp only [lookup_cons_ite, ih]; grind

/-- Puts a value under a key, in place of the one that is there. -/
def insert (values : Keyed α) (key : String) (value : α) : Keyed α :=
  ⟨insertEntry key value values.entries, insertEntry_ascending values.ascending⟩

@[simp]
theorem get?_insert (values : Keyed α) (key other : String) (value : α) :
    (values.insert key value).get? other = if other = key then some value else values.get? other :=
  lookup_insertEntry key other value values.entries

def erase (values : Keyed α) (key : String) : Keyed α :=
  ⟨values.entries.filter fun entry => entry.1 ≠ key, values.ascending.filter _⟩

@[simp]
theorem get?_erase (values : Keyed α) (key other : String) :
    (values.erase key).get? other = if other = key then none else values.get? other := by
  obtain ⟨entries, ascending⟩ := values
  simp only [erase, get?]
  clear ascending
  induction entries with
  | nil => simp
  | cons head tail ih =>
    by_cases dropped : head.1 = key
    · simp only [List.filter_cons, dropped, lookup_cons_ite]; grind
    · simp only [List.filter_cons, lookup_cons_ite]; grind [lookup_cons_ite]

end Keyed

end InfobaseGateway
