import InfobaseGateway.Config.Gateway

/-!
# What is written is read

The tree that is written for a setting is read as the same setting: for every kind of value, and for
a record from its members. The members of a record are found by their keys, wherever they stand.
-/

namespace InfobaseGateway.Config

/-- Whatever is written for a value is read as this value. -/
def Reads {α : Type} (decode : ConfigTree → Decoded α) (toTree : α → ConfigTree) : Prop :=
  ∀ value : α, decode (toTree value) = .ok value

/-! ## Values -/

namespace Decode

variable {α : Type}

theorem reads_text : Reads text .text := by
  intro value
  rfl

/-- A number below the bound of its type is read as it is. -/
theorem unsigned_integer {bits n : Nat} (hbits : n < Nat.pow 2 bits) (hword : n < UInt64.size) :
    unsigned bits (.integer n) = .ok n := by
  have hrange : ¬((n : Int) < -(UInt64.size / 2 : Nat) ∨ (UInt64.size : Int) ≤ n) := by omega
  have htype : ¬((n : Int) < 0 ∨ (Nat.pow 2 bits : Int) ≤ n) := by
    rintro (hneg | hbig)
    · omega
    · exact absurd hbits (Nat.not_lt.mpr (Int.ofNat_le.mp hbig))
  rw [unsigned, if_neg hrange, if_neg htype]
  rfl

/-- Numbers of a type with at most 64 bits are read. -/
theorem reads_number
    {bits : Nat} {toNat : α → Nat} {ofNat : Nat → α} (hbits : bits ≤ 64)
    (hbound : ∀ value, toNat value < Nat.pow 2 bits)
    (hback : ∀ value, ofNat (toNat value) = value) :
    Reads (fun tree => ofNat <$> unsigned bits tree) fun value => .integer (toNat value) := by
  intro value
  have hword : toNat value < UInt64.size :=
    Nat.lt_of_lt_of_le (hbound value) (Nat.pow_le_pow_right Nat.two_pos hbits)
  change ofNat <$> unsigned bits (.integer (toNat value)) = _
  rw [unsigned_integer (hbound value) hword]
  exact congrArg Except.ok (hback value)

theorem reads_optional
    {decode : ConfigTree → Decoded α} {toTree : α → ConfigTree} (hreads : Reads decode toTree)
    (hnull : ∀ value, toTree value ≠ .null) :
    Reads (optional decode) (optionTree toTree) := by
  intro value
  cases value with
  | none => rfl
  | some value =>
    have hsome : optional decode (toTree value) = some <$> decode (toTree value) := by
      rw [optional]
      exact hnull value
    rw [optionTree, hsome, hreads]
    rfl

theorem items_map
    {decode : ConfigTree → Decoded α} {toTree : α → ConfigTree} (hreads : Reads decode toTree)
    (position : Nat) (values : List α) :
    items decode position (values.map toTree) = .ok values := by
  induction values generalizing position with
  | nil => rfl
  | cons value values ih =>
    rw [List.map_cons, items, hreads, ih]
    rfl

theorem reads_list
    {decode : ConfigTree → Decoded α} {toTree : α → ConfigTree} (hreads : Reads decode toTree) :
    Reads (list decode) (listTree toTree) := by
  intro values
  exact items_map hreads 0 values

end Decode

/-! ## Records -/

namespace Fields

variable {α β : Type}

/-- What is read of the entries of a dictionary. -/
def Finds (fields : Fields α) (entries : ConfigEntries) (value : α) : Prop :=
  fields.ofEntries entries = .ok value

namespace Finds

variable {entries : ConfigEntries}

theorem seq
    {first : Fields (α → β)} {second : Fields α} {build : α → β} {value : α}
    (hfirst : Finds first entries build) (hsecond : Finds second entries value) :
    Finds (first <*> second) entries (build value) := by
  rw [Finds] at hfirst hsecond
  change (Fields.seq first second).ofEntries entries = _
  simp only [Fields.seq, hfirst, hsecond]

theorem map
    {fields : Fields α} {value : α} (build : α → β) (hfields : Finds fields entries value) :
    Finds (build <$> fields) entries (build value) :=
  seq rfl hfields

/-- A member with an entry of its own is read from it. -/
theorem member
    {key : String} {decode : ConfigTree → Decoded α} {fallback : Option α} {tree : ConfigTree}
    {value : α} (hkey : entries.lookup key = some tree) (hread : decode tree = .ok value) :
    Finds (Fields.member key decode fallback) entries value := by
  simp only [Finds, Fields.member, hkey, hread]
  rfl

/-- A record is read from its members. -/
theorem decode {fields : Fields α} {value : α} (hfields : Finds fields entries value) :
    fields.decode (.dict entries) = .ok value := by
  rw [Finds] at hfields
  rw [Fields.decode, hfields]
  rfl

end Finds

end Fields

end InfobaseGateway.Config

namespace InfobaseGateway

open Config

/-! ## Seeds -/

namespace Account

theorem reads : Reads fields.decode toTree := by
  intro account
  apply Fields.Finds.decode
  refine .seq (.map mk ?user) ?password
  case user => exact .member rfl (Decode.reads_text account.user)
  case password => exact .member rfl (Decode.reads_text account.password)

end Account

namespace InfobaseSeed

theorem reads : Reads fields.decode toTree := by
  intro seed
  have htext : Reads (Decode.optional Decode.text) (optionTree .text) :=
    Decode.reads_optional Decode.reads_text nofun
  apply Fields.Finds.decode
  refine .seq (.seq (.map mk ?uuid) ?name) ?description
  case uuid => exact .member rfl (htext seed.uuid)
  case name => exact .member rfl (Decode.reads_text seed.name)
  case description => exact .member rfl (htext seed.description)

end InfobaseSeed

namespace ClusterSeed

theorem reads_port : Reads decodePort fun port => .integer port.toNat :=
  Decode.reads_number (by decide) UInt32.toNat_lt @UInt32.ofNat_toNat

theorem reads : Reads fields.decode toTree := by
  intro seed
  have htext : Reads (Decode.optional Decode.text) (optionTree .text) :=
    Decode.reads_optional Decode.reads_text nofun
  have hport := Decode.reads_optional reads_port nofun
  have haccounts := Decode.reads_list Account.reads
  apply Fields.Finds.decode
  refine .seq (.seq (.seq (.seq (.seq (.seq (.seq (.map mk ?id) ?name) ?host) ?port) ?infobases)
    ?sessions) ?admins) ?infobaseUsers
  case id => exact .member rfl (Decode.reads_text seed.id)
  case name => exact .member rfl (htext seed.name)
  case host => exact .member rfl (htext seed.host)
  case port => exact .member rfl (hport seed.port)
  case infobases => exact .member rfl (Decode.reads_list InfobaseSeed.reads seed.infobases)
  case sessions => exact .member rfl (Decode.reads_list Decode.reads_text seed.sessions)
  case admins => exact .member rfl (haccounts seed.admins)
  case infobaseUsers => exact .member rfl (haccounts seed.infobaseUsers)

end ClusterSeed

namespace StoreSeed

theorem reads : Reads fields.decode toTree := by
  intro seed
  apply Fields.Finds.decode
  refine .seq (.map mk ?clusters) ?agentAdmins
  case clusters => exact .member rfl (Decode.reads_list ClusterSeed.reads seed.clusters)
  case agentAdmins => exact .member rfl (Decode.reads_list Account.reads seed.agentAdmins)

end StoreSeed

/-! ## The configuration -/

namespace EndpointConfig

theorem reads : Reads decode toTree := by
  rintro ⟨seed⟩
  have hkind :
      Decode.variant ["InMemory"] (toTree (.inMemory seed)) =
        .ok ("InMemory", some seed.toTree) := rfl
  rw [decode, hkind]
  change inMemory <$> (StoreSeed.fields.decode seed.toTree).under "InMemory" = _
  rw [StoreSeed.reads seed]
  rfl

end EndpointConfig

namespace Level

theorem reads : Reads decode fun level => .text level.filterName := by
  intro level
  cases level <;> rfl

end Level

namespace LogFilter

theorem reads : Reads fields.decode toTree := by
  intro filter
  apply Fields.Finds.decode
  refine .seq (.map mk ?component) ?level
  case component => exact .member rfl (Decode.reads_text filter.component)
  case level => exact .member rfl (Level.reads filter.level)

end LogFilter

namespace TracingConfig

theorem reads : Reads fields.decode toTree := by
  intro config
  apply Fields.Finds.decode
  refine .seq (.seq (.map mk ?endpoint) ?serviceName) ?filters
  case endpoint => exact .member rfl (Decode.reads_text config.endpoint)
  case serviceName => exact .member rfl (Decode.reads_text config.serviceName)
  case filters => exact .member rfl (Decode.reads_list LogFilter.reads config.filters)

end TracingConfig

namespace GatewayConfig

theorem reads_port : Reads decodePort fun port => .integer port.toNat :=
  Decode.reads_number (by decide) UInt16.toNat_lt @UInt16.ofNat_toNat

theorem reads_word : Reads decodeWord fun word => .integer word.toNat :=
  Decode.reads_number (by decide) UInt64.toNat_lt @UInt64.ofNat_toNat

theorem reads : Reads fields.decode toTree := by
  intro config
  have htracing := Decode.reads_optional TracingConfig.reads nofun
  apply Fields.Finds.decode
  refine .seq (.seq (.seq (.seq (.seq (.map mk ?port) ?endpoint) ?tracing) ?maxEncodingSize)
    ?maxDecodingSize) ?shutdownGrace
  case port => exact .member rfl (reads_port config.port)
  case endpoint => exact .member rfl (EndpointConfig.reads config.endpoint)
  case tracing => exact .member rfl (htracing config.tracing)
  case maxEncodingSize => exact .member rfl (reads_word config.maxEncodingSize)
  case maxDecodingSize => exact .member rfl (reads_word config.maxDecodingSize)
  case shutdownGrace => exact .member rfl (reads_word config.shutdownGrace)

theorem reads_root : Reads decodeRoot toRoot := by
  intro config
  exact Fields.Finds.decode (.member rfl (reads config))

end GatewayConfig

end InfobaseGateway
