import InfobaseGateway.Proofs.Config.Layer
import InfobaseGateway.Proofs.Config.Variable

/-!
# Settings that come from variables

A variable whose name spells the path of a setting does what a change of the file at that path would
do: its value is laid over the one in the file, so it takes the place of it, unless both are
dictionaries, which are merged. Names of variables are read in small letters, so this is about the
settings whose keys have no capitals.
-/

namespace InfobaseGateway

open Config

namespace ConfigTree

/-! ## Paths of keys -/

mutual

/-- The paths of keys to all values that lie in dictionaries of a tree. -/
def keyPaths : ConfigTree → List (List String)
  | .dict entries => keyPathsOf entries
  | _ => []

/-- The paths of keys that begin with an entry. -/
def keyPathsOf : List (String × ConfigTree) → List (List String)
  | [] => []
  | (key, tree) :: entries => [key] :: (keyPaths tree).map (key :: ·) ++ keyPathsOf entries

end

end ConfigTree

/-- A path to a setting, from key to key. -/
def GatewayConfig.IsKeyPath (path : List String) : Prop :=
  ∃ config : GatewayConfig, path ∈ config.toRoot.keyPaths

namespace GatewayConfig

/-- A configuration with all sections. -/
def complete : GatewayConfig :=
  { tracing := some ⟨"", "", []⟩ }

/-- The key paths of a configuration do not depend on its values. -/
theorem isKeyPath_iff (path : List String) :
    IsKeyPath path ↔ path ∈ complete.toRoot.keyPaths := by
  have hinitial : ∀ path ∈ initial.toRoot.keyPaths, path ∈ complete.toRoot.keyPaths := by
    decide
  constructor
  · rintro ⟨⟨port, ⟨seed⟩, tracing, encoding, decoding, grace⟩, hpath⟩
    cases tracing with
    | some tracing => exact hpath
    | none => exact hinitial path hpath
  · intro hpath
    exact ⟨complete, hpath⟩

end GatewayConfig

namespace Config.Environment

/-- The tree of a single variable. -/
theorem toTree_singleton
    {name : String} {path : List String} (hpath : path? name = some path) (hne : path ≠ [])
    (text : String) :
    toTree [(name, text)] = ConfigTree.nest (EnvironmentValue.parse text) path := by
  cases path with
  | nil => exact absurd rfl hne
  | cons key path =>
    simp only [toTree, List.foldl_cons, List.foldl_nil, hpath]
    exact ConfigTree.merge_singleton _ key _

end Config.Environment

/-! ## Variables and changes of the file -/

namespace GatewayConfig

open ConfigTree Environment

/-- Whether the keys of a path have no capitals, as names of variables are read. -/
def IsSmall (path : List String) : Prop :=
  ∀ key ∈ path, key.toList.map Char.toLower = key.toList

instance (path : List String) : Decidable (IsSmall path) :=
  inferInstanceAs (Decidable (∀ key ∈ path, key.toList.map Char.toLower = key.toList))

theorem ne_nil_of_isKeyPath {path : List String} (hpath : IsKeyPath path) : path ≠ [] := by
  have hpaths : ∀ path ∈ complete.toRoot.keyPaths, path ≠ [] := by decide
  exact hpaths path ((isKeyPath_iff path).mp hpath)

/-- But for their capitals, all keys of settings can be spelled in names of variables. -/
theorem isSpelled_of_isKeyPath
    {path : List String} (hpath : IsKeyPath path) (hsmall : IsSmall path) :
    ∀ key ∈ path, IsSpelled key.toList := by
  have hpaths :
      ∀ path ∈ complete.toRoot.keyPaths, IsSmall path → ∀ key ∈ path, IsSpelled key.toList := by
    decide +kernel
  exact hpaths path ((isKeyPath_iff path).mp hpath) hsmall

/-- The result of a change of the file, without variables. -/
theorem ofTrees_update
    {path : List String} (hne : path ≠ []) (change : Option ConfigTree → ConfigTree)
    (tree : Option ConfigTree) :
    ofTrees (some (update change path tree)) [] = decodeRoot (update change path tree) := by
  cases path with
  | nil => exact absurd rfl hne
  | cons key path => exact ofTrees_of_noSettings (List.forall_mem_nil _) _

/-- A variable does what it would do to write its value into the file, in place of the one at the
path. -/
def ReplacedBy (file : Option ConfigTree) (path : List String) (name text : String) : Prop :=
  ofTrees file [(name, text)] =
    ofTrees (some (update (fun _ => EnvironmentValue.parse text) path file)) []

/-- What the variables of a path do. The file may be missing; then there is an empty one in its
place. -/
structure SetByVariable (path : List String) : Prop where
  /-- The value of the variable is laid over that of the file. -/
  laidOver : ∀ (file : Option ConfigTree) (name text : String), Spells name path →
    ofTrees file [(name, text)] =
      ofTrees (some (update (layer (EnvironmentValue.parse text)) path file)) []
  /-- The value of the variable takes the place of that of the file, unless both are
  dictionaries. -/
  replaced : ∀ (file : Option ConfigTree) (name text : String), Spells name path →
    isDict (some (EnvironmentValue.parse text)) = false ∨ isDict (at? path file) = false →
      ReplacedBy file path name text

/-- A variable does what a change of the file would do, for every setting whose keys have no
capitals, every file and every value. -/
theorem setByVariable
    {path : List String} (hpath : IsKeyPath path) (hsmall : IsSmall path) :
    SetByVariable path := by
  have hne := ne_nil_of_isKeyPath hpath
  have hlaid (file : Option ConfigTree) (name text : String) (hname : Spells name path) :
      ofTrees file [(name, text)] =
        ofTrees (some (update (layer (EnvironmentValue.parse text)) path file)) [] := by
    have hvariable :=
      path?_eq_some_of_spells hne (isSpelled_of_isKeyPath hpath hsmall) hname
    calc ofTrees file [(name, text)]
      _ = decodeRoot (layer (nest (EnvironmentValue.parse text) path)
            (some (file.getD (.dict [])))) := by
          rw [ofTrees, toTree_singleton hvariable hne, layer]
      _ = decodeRoot (update (layer (EnvironmentValue.parse text)) path file) := by
          rw [layer_nest, update_getD hne]
      _ = ofTrees (some (update (layer (EnvironmentValue.parse text)) path file)) [] :=
          (ofTrees_update hne _ file).symm
  constructor
  · exact hlaid
  · intro file name text hname hdict
    have hsame :
        update (layer (EnvironmentValue.parse text)) path file =
          update (fun _ => EnvironmentValue.parse text) path file :=
      update_congr (layer_eq_self hdict)
    rw [ReplacedBy, hlaid file name text hname, hsame]

/-- The variable of the port. -/
theorem setByVariable_port :
    IsKeyPath ["gateway", "port"] ∧ IsSmall ["gateway", "port"] ∧
      SetByVariable ["gateway", "port"] := by
  have hpath : IsKeyPath ["gateway", "port"] := (isKeyPath_iff _).mpr (by decide)
  exact ⟨hpath, by decide, setByVariable hpath (by decide)⟩

/-- A dictionary in a variable leaves what it does not name as it is in the file. And no variable
is about a key with capitals, as names are read in small letters. -/
theorem not_replacedBy_variables :
    (IsKeyPath ["gateway"] ∧ Spells "RAS_GATEWAY" ["gateway"] ∧
      ¬ReplacedBy (some (.dict [("gateway", .dict [("max_encoding_message_size", .integer 6)])]))
        ["gateway"] "RAS_GATEWAY" "\x7bport=77\x7d") ∧
      IsKeyPath ["gateway", "endpoint", "InMemory", "agent_admins"] ∧
        Spells "RAS_GATEWAY__ENDPOINT__INMEMORY__AGENT_ADMINS"
          ["gateway", "endpoint", "InMemory", "agent_admins"] ∧
        ¬ReplacedBy
          (some (.dict [("gateway",
            .dict [("endpoint", .dict [("InMemory", .dict [("agent_admins", .list [])])])])]))
          ["gateway", "endpoint", "InMemory", "agent_admins"]
          "RAS_GATEWAY__ENDPOINT__INMEMORY__AGENT_ADMINS" "[\x7buser=admin\x7d]" := by
  refine ⟨⟨(isKeyPath_iff _).mpr (by decide), by decide +kernel, ?_⟩,
    (isKeyPath_iff _).mpr (by decide), by decide +kernel, ?_⟩
  · intro hreplaced
    exact absurd (congrArg Except.toOption hreplaced) (by decide +kernel)
  · intro hreplaced
    exact absurd (congrArg Except.toOption hreplaced) (by decide +kernel)

end GatewayConfig

end InfobaseGateway
