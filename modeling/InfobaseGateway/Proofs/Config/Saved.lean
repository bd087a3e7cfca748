import InfobaseGateway.Proofs.Config.Decoding
import InfobaseGateway.Proofs.Config.Layer
import InfobaseGateway.Proofs.Yaml.RoundTrip

/-!
# Saved configurations

A configuration that is written to a file is loaded from it as it was, whatever accounts, seeds and
filters it holds. So whatever is loaded can be saved and loaded again without any loss.
-/

namespace InfobaseGateway

open Config Yaml

/-! ## Configurations can be written -/

section

variable {α : Type} {toTree : α → ConfigTree} {depth : Nat}

theorem writable_optionTree
    (hwritable : ∀ value, Writable depth (toTree value)) (value : Option α) :
    Writable depth (optionTree toTree value) := by
  cases value with
  | none => exact .null depth
  | some value => exact hwritable value

theorem writable_listTree
    (hwritable : ∀ value, Writable depth (toTree value)) (values : List α) :
    Writable (depth + 1) (listTree toTree values) :=
  .list (List.forall_mem_map.mpr fun value _ => hwritable value)

end

theorem Account.writable (depth : Nat) (account : Account) :
    Writable (depth + 1) account.toTree := by
  have hkeys : KeysWritable ["user", "password"] := by decide
  refine .dict hkeys ?_
  simp only [List.map_cons, List.map_nil, List.forall_mem_cons]
  exact ⟨.text _ _, .text _ _, List.forall_mem_nil _⟩

theorem InfobaseSeed.writable (depth : Nat) (seed : InfobaseSeed) :
    Writable (depth + 1) seed.toTree := by
  have hkeys : KeysWritable ["uuid", "name", "description"] := by decide
  refine .dict hkeys ?_
  simp only [List.map_cons, List.map_nil, List.forall_mem_cons]
  exact ⟨writable_optionTree (.text depth) _, .text _ _, writable_optionTree (.text depth) _,
    List.forall_mem_nil _⟩

theorem ClusterSeed.writable (depth : Nat) (seed : ClusterSeed) :
    Writable (depth + 3) seed.toTree := by
  have hkeys : KeysWritable
      ["id", "name", "host", "port", "infobases", "sessions", "admins", "infobase_users"] := by
    decide
  have htext := writable_optionTree (.text (depth + 2))
  have hport (port : UInt32) : Writable (depth + 2) (.integer port.toNat) :=
    .integer _ (Nat.lt_trans port.toNat_lt (by decide))
  have haccounts := writable_listTree (Account.writable depth)
  refine .dict hkeys ?_
  simp only [List.map_cons, List.map_nil, List.forall_mem_cons]
  exact ⟨.text _ _, htext _, htext _, writable_optionTree hport _,
    writable_listTree (InfobaseSeed.writable depth) _, writable_listTree (.text (depth + 1)) _,
    haccounts _, haccounts _, List.forall_mem_nil _⟩

theorem StoreSeed.writable (depth : Nat) (seed : StoreSeed) :
    Writable (depth + 5) seed.toTree := by
  have hkeys : KeysWritable ["clusters", "agent_admins"] := by decide
  refine .dict hkeys ?_
  simp only [List.map_cons, List.map_nil, List.forall_mem_cons]
  exact ⟨writable_listTree (ClusterSeed.writable depth) _,
    writable_listTree (Account.writable (depth + 2)) _, List.forall_mem_nil _⟩

theorem EndpointConfig.writable (depth : Nat) (config : EndpointConfig) :
    Writable (depth + 6) config.toTree := by
  obtain ⟨seed⟩ := config
  have hkeys : KeysWritable ["InMemory"] := by decide
  exact .dict hkeys (List.forall_mem_singleton.mpr (StoreSeed.writable depth seed))

theorem LogFilter.writable (depth : Nat) (filter : LogFilter) :
    Writable (depth + 1) filter.toTree := by
  have hkeys : KeysWritable ["crate_name", "filter_level"] := by decide
  refine .dict hkeys ?_
  simp only [List.map_cons, List.map_nil, List.forall_mem_cons]
  exact ⟨.text _ _, .text _ _, List.forall_mem_nil _⟩

theorem TracingConfig.writable (depth : Nat) (config : TracingConfig) :
    Writable (depth + 3) config.toTree := by
  have hkeys : KeysWritable ["endpoint", "service_name", "filters"] := by decide
  refine .dict hkeys ?_
  simp only [List.map_cons, List.map_nil, List.forall_mem_cons]
  exact ⟨.text _ _, .text _ _, writable_listTree (LogFilter.writable depth) _,
    List.forall_mem_nil _⟩

namespace GatewayConfig

theorem writable (depth : Nat) (config : GatewayConfig) : Writable (depth + 7) config.toTree := by
  have hkeys : KeysWritable
      ["port", "endpoint", "opentelemetry", "max_encoding_message_size",
        "max_decoding_message_size", "grpc_shutdown_grace_period_seconds"] := by
    decide
  have hport : config.port.toNat < Nat.pow 2 128 := Nat.lt_trans config.port.toNat_lt (by decide)
  have hword (word : UInt64) : Writable (depth + 6) (.integer word.toNat) :=
    .integer _ (Nat.lt_trans word.toNat_lt (by decide))
  refine .dict hkeys ?_
  simp only [List.map_cons, List.map_nil, List.forall_mem_cons]
  exact ⟨.integer _ hport, EndpointConfig.writable depth _,
    writable_optionTree (TracingConfig.writable (depth + 3)) _, hword _, hword _, hword _,
    List.forall_mem_nil _⟩

theorem writable_toRoot (depth : Nat) (config : GatewayConfig) :
    Writable (depth + 8) config.toRoot := by
  have hkeys : KeysWritable ["gateway"] := by decide
  exact .dict hkeys (List.forall_mem_singleton.mpr (config.writable depth))

/-! ## Saving and loading -/

/-- The file that a configuration is saved to. -/
def saved (config : GatewayConfig) : String :=
  write config.toRoot

/-- Every configuration is loaded as it was saved. -/
structure SavedLoads : Prop where
  /-- The tree of a configuration is read as the configuration. -/
  tree : ∀ (config : GatewayConfig) (environment : Environment), environment.NoSettings →
    ofTrees (some config.toRoot) environment = .ok config
  /-- In whichever way the tree is written, the configuration is loaded from it. -/
  written : ∀ (config : GatewayConfig) (environment : Environment) (text : String),
    environment.NoSettings → Yaml.read? text = some config.toRoot →
      load (some text) environment = .ok config
  /-- The saved file holds the tree. -/
  read : ∀ config : GatewayConfig, Yaml.read? config.saved = some config.toRoot
  /-- The saved file is loaded as the configuration. -/
  saved : ∀ (config : GatewayConfig) (environment : Environment), environment.NoSettings →
    load (some config.saved) environment = .ok config
  /-- To save what was loaded and load it again makes no difference. -/
  again : ∀ (file : Option String) (environment : Environment),
    (load file environment >>= fun config => load (some config.saved) []) = load file environment

theorem savedLoads : SavedLoads := by
  have htree (config : GatewayConfig) (environment : Environment)
      (hnone : environment.NoSettings) :
      ofTrees (some config.toRoot) environment = .ok config :=
    (ofTrees_of_noSettings hnone _).trans (reads_root config)
  have hwritten (config : GatewayConfig) (environment : Environment) (text : String)
      (hnone : environment.NoSettings) (hread : Yaml.read? text = some config.toRoot) :
      load (some text) environment = .ok config := by
    rw [load, hread]
    exact htree config environment hnone
  have hread (config : GatewayConfig) : Yaml.read? config.saved = some config.toRoot :=
    read?_write (config.writable_toRoot 120)
  have hsaved (config : GatewayConfig) (environment : Environment)
      (hnone : environment.NoSettings) :
      load (some config.saved) environment = .ok config :=
    hwritten config environment config.saved hnone (hread config)
  refine ⟨htree, hwritten, hread, hsaved, ?_⟩
  intro file environment
  cases load file environment with
  | error fault => rfl
  | ok config =>
    simp only [bind, Except.bind]
    exact hsaved config [] (List.forall_mem_nil _)

end GatewayConfig

end InfobaseGateway
