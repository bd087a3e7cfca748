import InfobaseGateway.Config.Environment
import InfobaseGateway.Proofs.Text.Casing
import Mathlib.Data.List.Basic

/-!
# Names of variables

The variable of a path is named for its keys, with two underscores between one key and the next. A
name leads back to the path it was made from if the keys are in small letters and hold nothing that
means something else in a name: no point, no white space, and no pair of underscores, not even one
that comes about where two keys meet.
-/

namespace InfobaseGateway.Config.Environment

/-! ## Points for pairs of underscores -/

theorem pointed_cons {c : Char} {rest : List Char} (hpair : c = '_' → rest.head? ≠ some '_') :
    pointed (c :: rest) = c :: pointed rest := by
  rw [pointed]
  rintro rest' hc rfl
  exact hpair hc rfl

/-- A part in which no pair of underscores begins is left as it is, whatever follows. -/
theorem pointed_append
    {key : List Char} (hapart : pointed (key ++ ['_']) = key ++ ['_']) (rest : List Char) :
    pointed (key ++ rest) = key ++ pointed rest := by
  induction key with
  | nil => rfl
  | cons c key ih =>
    have hpair : c = '_' → (key ++ ['_']).head? ≠ some '_' := by
      rintro rfl hhead
      obtain ⟨tail, htail⟩ := List.head?_eq_some_iff.mp hhead
      rw [List.cons_append, htail, pointed] at hapart
      cases hapart
    have hkey : pointed (key ++ ['_']) = key ++ ['_'] := by
      rw [List.cons_append, pointed_cons hpair] at hapart
      exact List.tail_eq_of_cons_eq hapart
    have hnext : c = '_' → (key ++ rest).head? ≠ some '_' := by
      intro hc
      have hhead := hpair hc
      cases key with
      | nil => exact absurd rfl hhead
      | cons d key => exact hhead
    rw [List.cons_append, pointed_cons hnext, ih hkey]
    rfl

/-- Between keys without pairs of underscores, every pair becomes a point. -/
theorem pointed_intercalate
    {keys : List (List Char)} (hapart : ∀ key ∈ keys, pointed (key ++ ['_']) = key ++ ['_']) :
    pointed (['_', '_'].intercalate keys) = ['.'].intercalate keys := by
  induction keys with
  | nil => rfl
  | cons key keys ih =>
    have hkey := hapart key List.mem_cons_self
    cases keys with
    | nil =>
      rw [List.intercalate_singleton, List.intercalate_singleton]
      simpa [pointed] using pointed_append hkey []
    | cons other keys =>
      rw [List.intercalate_cons_cons, List.intercalate_cons_cons, List.append_assoc,
        pointed_append hkey, List.append_assoc, List.cons_append, List.singleton_append, pointed,
        ih fun key hmem => hapart key (List.mem_cons_of_mem _ hmem)]
      rfl

/-! ## Keys that can be spelled -/

/-- What holds of a separator and of all parts holds of the characters between the ends. -/
theorem forall_mem_intercalate
    {P : Char → Prop} {separator : List Char} (hseparator : ∀ c ∈ separator, P c)
    {parts : List (List Char)} (hparts : ∀ part ∈ parts, ∀ c ∈ part, P c) :
    ∀ c ∈ separator.intercalate parts, P c := by
  induction parts with
  | nil => exact List.forall_mem_nil _
  | cons part parts ih =>
    have hpart := hparts part List.mem_cons_self
    have hrest := ih fun part hmem => hparts part (List.mem_cons_of_mem _ hmem)
    cases parts with
    | nil =>
      rw [List.intercalate_singleton]
      exact hpart
    | cons other parts =>
      rw [List.intercalate_cons_cons]
      intro c hc
      rcases List.mem_append.mp hc with hfront | hback
      · exact (List.mem_append.mp hfront).elim (hpart c) (hseparator c)
      · exact hrest c hback

/-- A key that a name can spell. -/
structure IsSpelled (key : List Char) : Prop where
  nonempty : key ≠ []
  /-- There are no capitals. -/
  small : ∀ c ∈ key, c.toLower = c
  no_white : ∀ c ∈ key, Text.isWhite c = false
  no_point : '.' ∉ key
  /-- No pair of underscores begins in the key. -/
  apart : pointed (key ++ ['_']) = key ++ ['_']

instance (key : List Char) : Decidable (IsSpelled key) :=
  decidable_of_iff
    (key ≠ [] ∧ (key.all fun c => c.toLower = c) ∧ (key.all fun c => !Text.isWhite c) ∧
      '.' ∉ key ∧ pointed (key ++ ['_']) = key ++ ['_'])
    ⟨fun ⟨nonempty, small, no_white, no_point, apart⟩ =>
        ⟨nonempty, by simpa using small, by simpa using no_white, no_point, apart⟩,
      fun ⟨nonempty, small, no_white, no_point, apart⟩ =>
        ⟨nonempty, by simpa using small, by simpa using no_white, no_point, apart⟩⟩

/-- The name of the variable of a path. -/
def variableName (path : List String) : String :=
  namePrefix ++ "__".intercalate path

/-- Whether a name is that of the variable of a path, in letters of either case. -/
def Spells (name : String) (path : List String) : Prop :=
  name.toList.map Char.toLower = (variableName path).toList.map Char.toLower

instance (name : String) (path : List String) : Decidable (Spells name path) :=
  inferInstanceAs (Decidable (_ = _))

theorem map_toLower_variableName
    {path : List String} (hspelled : ∀ key ∈ path, IsSpelled key.toList) :
    (variableName path).toList.map Char.toLower =
      namePrefix.toList.map Char.toLower ++ ['_', '_'].intercalate (path.map String.toList) := by
  have hsmall : ∀ c ∈ ['_', '_'].intercalate (path.map String.toList), c.toLower = c := by
    apply forall_mem_intercalate
    · exact List.forall_mem_cons.mpr ⟨rfl, List.forall_mem_singleton.mpr rfl⟩
    · intro part hpart
      obtain ⟨key, hkey, rfl⟩ := List.mem_map.mp hpart
      exact (hspelled key hkey).small
  rw [variableName, String.toList_append, String.toList_intercalate, List.map_append]
  exact congrArg _ ((List.map_congr_left hsmall).trans (List.map_id _))

/-- The variable of a path of such keys is about this path, in letters of either case. -/
theorem path?_eq_some_of_spells
    {path : List String} (hne : path ≠ []) (hspelled : ∀ key ∈ path, IsSpelled key.toList)
    {name : String} (hname : Spells name path) :
    path? name = some path := by
  have hparts {P : Char → Prop} (hkeys : ∀ key ∈ path, ∀ c ∈ key.toList, P c) :
      ∀ part ∈ path.map String.toList, ∀ c ∈ part, P c :=
    List.forall_mem_map.mpr hkeys
  have hchars :
      name.toList.map Char.toLower =
        namePrefix.toList.map Char.toLower ++ ['_', '_'].intercalate (path.map String.toList) :=
    hname.trans (map_toLower_variableName hspelled)
  have hwhite {separator : List Char} (hseparator : separator.all (!Text.isWhite ·) = true) :
      ∀ c ∈ separator.intercalate (path.map String.toList), Text.isWhite c = false := by
    apply forall_mem_intercalate
    · simpa using hseparator
    · exact hparts fun key hkey => (hspelled key hkey).no_white
  have htrim : Text.trim name = name := by
    apply Text.trim_eq_self_of_toLower
    rw [hchars]
    intro c hc
    rcases List.mem_append.mp hc with hstart | hkeys
    · have hprefix : (namePrefix.toList.map Char.toLower).all (!Text.isWhite ·) = true := by
        decide
      simpa using List.all_eq_true.mp hprefix c hstart
    · exact hwhite rfl c hkeys
  have hpointed :
      pointed (['_', '_'].intercalate (path.map String.toList)) =
        ['.'].intercalate (path.map String.toList) :=
    pointed_intercalate (List.forall_mem_map.mpr fun key hkey => (hspelled key hkey).apart)
  have hspelledTrim :
      Text.trim (String.ofList (['.'].intercalate (path.map String.toList))) =
        String.ofList (['.'].intercalate (path.map String.toList)) := by
    apply Text.trim_eq_self
    rw [String.toList_ofList]
    exact hwhite rfl
  have hsplit :
      (['.'].intercalate (path.map String.toList)).splitOn '.' = path.map String.toList :=
    List.splitOn_intercalate '.'
      (List.forall_mem_map.mpr fun key hkey => (hspelled key hkey).no_point) (by simpa using hne)
  have hnonempty : path.any (· = "") = false := by
    rw [List.any_eq_false]
    intro key hkey hempty
    rw [of_decide_eq_true hempty] at hkey
    exact (hspelled "" hkey).nonempty rfl
  have hback : (path.map String.toList).map String.ofList = path := by
    rw [List.map_map]
    exact List.map_id'' (fun key => String.ofList_toList) path
  rw [path?, htrim, hchars]
  simp only [List.isPrefixOf_iff_prefix, List.prefix_append, if_true, List.drop_left, hpointed,
    hspelledTrim, String.toList_ofList, hsplit, hback, hnonempty, Bool.false_eq_true, if_false]

end InfobaseGateway.Config.Environment
