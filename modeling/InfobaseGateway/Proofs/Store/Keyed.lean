import InfobaseGateway.Store.Keyed
import Mathlib.Data.List.Sort
import Mathlib.Data.String.Basic

/-!
# Keyed collections key by key

A keyed collection is what it has under its keys: because the entries are in the order of their
keys, two collections with the same values under the same keys have the same entries and the same
listing. Values can be changed under all keys at once.
-/

namespace InfobaseGateway

namespace Keyed

variable {α β : Type}

/-! ## Collections with the same values -/

theorem lookup_eq_some_iff_mem
    {entries : List (String × α)} (hascending : entries.Pairwise fun a b => a.1 < b.1)
    (key : String) (value : α) : entries.lookup key = some value ↔ (key, value) ∈ entries := by
  rw [List.lookup_eq_some_iff]
  constructor
  · rintro ⟨front, back, rfl, -⟩
    exact List.mem_append_right _ List.mem_cons_self
  · intro hmem
    obtain ⟨front, back, rfl⟩ := List.append_of_mem hmem
    refine ⟨front, back, rfl, fun entry hentry => ?_⟩
    have hbefore : entry.1 < key :=
      (List.pairwise_append.mp hascending).2.2 entry hentry _ List.mem_cons_self
    simpa using ne_of_gt hbefore

/-- Collections with the same values under the same keys are the same. -/
theorem ext_get? {values others : Keyed α} (h : ∀ key, values.get? key = others.get? key) :
    values = others := by
  obtain ⟨entries, hascending⟩ := values
  obtain ⟨entries', hascending'⟩ := others
  have hmem (entry : String × α) : entry ∈ entries ↔ entry ∈ entries' := by
    rw [← lookup_eq_some_iff_mem hascending, ← lookup_eq_some_iff_mem hascending']
    exact Eq.congr (h entry.1) rfl
  have : Std.Irrefl fun a b : String × α => a.1 < b.1 := ⟨fun entry => lt_irrefl entry.1⟩
  have : Std.Antisymm fun a b : String × α => a.1 < b.1 :=
    ⟨fun a b hab hba => absurd hba (lt_asymm hab)⟩
  have hsame : entries = entries' := hascending.eq_of_mem_iff hascending' hmem
  subst hsame
  rfl

/-! ## Listings of values that know their keys -/

section Named

variable {values : Keyed α} {name : α → String}

theorem mem_toList_iff
    (hname : ∀ key value, values.get? key = some value → name value = key) (value : α) :
    value ∈ values.toList ↔ values.get? (name value) = some value := by
  have hentry (key : String) : values.get? key = some value ↔ (key, value) ∈ values.entries :=
    lookup_eq_some_iff_mem values.ascending key value
  constructor
  · intro hmem
    obtain ⟨⟨key, _⟩, hkey, rfl⟩ := List.mem_map.mp hmem
    have hget := (hentry key).mpr hkey
    rw [hname key _ hget]
    exact hget
  · intro hget
    exact List.mem_map_of_mem ((hentry _).mp hget)

/-- The values are listed in ascending order of their own names. -/
theorem pairwise_map_toList
    (hname : ∀ key value, values.get? key = some value → name value = key) :
    (values.toList.map name).Pairwise (· < ·) := by
  have hkeys : values.toList.map name = values.entries.map (·.1) := by
    rw [toList, List.map_map]
    refine List.map_congr_left fun entry hentry => hname entry.1 entry.2 ?_
    exact (lookup_eq_some_iff_mem values.ascending entry.1 entry.2).mpr hentry
  rw [hkeys, List.pairwise_map]
  exact values.ascending

end Named

/-! ## Changing all values -/

/-- The collection with every value changed and every key kept. -/
def map (f : α → β) (values : Keyed α) : Keyed β where
  entries := values.entries.map fun entry => (entry.1, f entry.2)
  ascending := List.pairwise_map.mpr values.ascending

theorem get?_map (f : α → β) (values : Keyed α) (key : String) :
    (values.map f).get? key = (values.get? key).map f := by
  obtain ⟨entries, ascending⟩ := values
  simp only [map, get?]
  clear ascending
  induction entries with
  | nil => rfl
  | cons entry entries ih =>
    rw [List.map_cons, lookup_cons_ite, lookup_cons_ite, ih]
    by_cases hkey : key = entry.1
    · rw [if_pos hkey, if_pos hkey]
      rfl
    · rw [if_neg hkey, if_neg hkey]

theorem insertEntry_map (f : α → β) (key : String) (value : α) (entries : List (String × α)) :
    insertEntry key (f value) (entries.map fun entry => (entry.1, f entry.2)) =
      (insertEntry key value entries).map fun entry => (entry.1, f entry.2) := by
  induction entries with
  | nil => rfl
  | cons entry entries ih =>
    simp only [List.map_cons, insertEntry, ih]
    by_cases hbefore : key < entry.1
    · simp only [if_pos hbefore, List.map_cons]
    · by_cases hkey : key = entry.1
      · simp only [if_neg hbefore, if_pos hkey, List.map_cons]
      · simp only [if_neg hbefore, if_neg hkey, List.map_cons]

theorem insert_map (f : α → β) (values : Keyed α) (key : String) (value : α) :
    (values.map f).insert key (f value) = (values.insert key value).map f := by
  simp only [insert, map, insertEntry_map]

theorem toList_map (f : α → β) (values : Keyed α) :
    (values.map f).toList = values.toList.map f := by
  simp [map, toList]

end Keyed

end InfobaseGateway
