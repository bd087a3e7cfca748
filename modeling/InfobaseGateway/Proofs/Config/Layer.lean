import InfobaseGateway.Config.Load

/-!
# Layers of settings

What it means to lay a tree over another one: a value at the end of a path changes the tree there
and nowhere else, and a tree without anything over it stays as it is.
-/

namespace InfobaseGateway

open Config

namespace ConfigTree

/-- The entries of a dictionary. What is no dictionary, or is not there, has none. -/
def entriesOf : Option ConfigTree → ConfigEntries
  | some (.dict entries) => entries
  | _ => []

/-- A tree with a change at the end of a path. What is no dictionary on the way becomes one. -/
def update (change : Option ConfigTree → ConfigTree) :
    (path : List String) → Option ConfigTree → ConfigTree
  | [], tree => change tree
  | key :: path, tree =>
    .dict (put key (update change path ((entriesOf tree).lookup key)) (entriesOf tree))

/-- The value at the end of a path. -/
def at? : (path : List String) → Option ConfigTree → Option ConfigTree
  | [], tree => tree
  | key :: path, tree => at? path ((entriesOf tree).lookup key)

/-- A value laid over the one that is there. -/
def layer (value : ConfigTree) : Option ConfigTree → ConfigTree
  | some below => below.merge value
  | none => value

/-- Whether there is a dictionary. -/
def isDict : Option ConfigTree → Bool
  | some (.dict _) => true
  | _ => false

theorem merge_singleton (base : ConfigTree) (key : String) (value : ConfigTree) :
    base.merge (.dict [(key, value)]) =
      .dict
        (put key (layer value ((entriesOf (some base)).lookup key)) (entriesOf (some base))) := by
  cases base with
  | dict entries =>
    rw [merge, mergeEntries, mergeEntries, entriesOf]
    cases entries.lookup key with
    | none => rfl
    | some below => rfl
  | null | flag _ | integer _ | decimal _ | text _ | character _ | list _ =>
    simp only [merge, entriesOf]
    rfl

/-- A path with a value at its end, laid over a tree, changes the tree there and nowhere else. -/
theorem layer_nest (value : ConfigTree) (path : List String) (tree : Option ConfigTree) :
    layer (nest value path) tree = update (layer value) path tree := by
  induction path generalizing tree with
  | nil => rfl
  | cons key path ih =>
    cases tree with
    | none =>
      rw [layer, nest, update, ← ih]
      rfl
    | some base => rw [layer, nest, merge_singleton, update, ih]

/-- What is laid over something takes its place, unless both are dictionaries. -/
theorem layer_eq_self
    {value : ConfigTree} {below : Option ConfigTree}
    (hdict : isDict (some value) = false ∨ isDict below = false) :
    layer value below = value := by
  cases below with
  | none => rfl
  | some base =>
    cases value with
    | dict upper =>
      cases base with
      | dict entries => simp [isDict] at hdict
      | null | flag _ | integer _ | decimal _ | text _ | character _ | list _ =>
        simp only [layer, merge]
    | null | flag _ | integer _ | decimal _ | text _ | character _ | list _ =>
      simp only [layer, merge]

theorem update_congr
    {change other : Option ConfigTree → ConfigTree} {path : List String}
    {tree : Option ConfigTree} (hsame : change (at? path tree) = other (at? path tree)) :
    update change path tree = update other path tree := by
  induction path generalizing tree with
  | nil => exact hsame
  | cons key path ih => rw [update, update, ih hsame]

/-- A missing tree changes like an empty dictionary. -/
theorem update_getD
    {path : List String} (hne : path ≠ []) (change : Option ConfigTree → ConfigTree)
    (tree : Option ConfigTree) :
    update change path (some (tree.getD (.dict []))) = update change path tree := by
  cases path with
  | nil => exact absurd rfl hne
  | cons key path =>
    cases tree with
    | none => rfl
    | some tree => rfl

end ConfigTree

namespace Config.Environment

/-- Whether no variable is about a setting, as none is whose name does not begin with `RAS_`. -/
def NoSettings (environment : Environment) : Prop :=
  ∀ entry ∈ environment, path? entry.1 = none

theorem toTree_of_noSettings {environment : Environment} (hnone : NoSettings environment) :
    toTree environment = .dict [] := by
  induction environment with
  | nil => rfl
  | cons entry environment ih =>
    obtain ⟨name, text⟩ := entry
    obtain ⟨hname, henvironment⟩ := List.forall_mem_cons.mp hnone
    simp only [toTree, List.foldl_cons, hname]
    exact ih henvironment

end Config.Environment

/-- Without variables, a file that is a dictionary is all there is. -/
theorem GatewayConfig.ofTrees_of_noSettings
    {environment : Environment} (hnone : environment.NoSettings) (entries : ConfigEntries) :
    ofTrees (some (.dict entries)) environment = decodeRoot (.dict entries) := by
  simp only [ofTrees, Option.getD_some, Environment.toTree_of_noSettings hnone, ConfigTree.merge,
    ConfigTree.mergeEntries]

end InfobaseGateway
