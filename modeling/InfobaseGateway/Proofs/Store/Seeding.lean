import InfobaseGateway.Proofs.Store.Keyed
import InfobaseGateway.Store.Seed
import Mathlib.Data.List.Induction

/-!
# What a configuration gives

A configuration is accepted exactly if its clusters have distinct ids and the infobases of each
cluster have distinct names. If it is not, the error is about the first cluster that repeats a name
or an earlier id, and a repeated name is told before a repeated id. If it is, the service holds what
is configured and nothing else. Clusters and infobases are added one after the other, so each proof
follows a configuration that grows at its end.
-/

namespace InfobaseGateway

/-! ## Repeated texts -/

/-- The text is the first of the list that stands in front of itself already. -/
def IsFirstRepeat (texts : List String) (text : String) : Prop :=
  ∃ front back, texts = front ++ text :: back ∧ front.Nodup ∧ text ∈ front

theorem nodup_or_exists_isFirstRepeat (texts : List String) :
    texts.Nodup ∨ ∃ text, IsFirstRepeat texts text := by
  induction texts using List.reverseRecOn with
  | nil => exact .inl List.nodup_nil
  | append_singleton texts text ih =>
    rcases ih with hnodup | ⟨earlier, front, back, rfl, hfront, hearlier⟩
    · by_cases htext : text ∈ texts
      · exact .inr ⟨text, texts, [], rfl, hnodup, htext⟩
      · rw [← List.concat_eq_append, List.nodup_concat]
        exact .inl ⟨htext, hnodup⟩
    · exact .inr ⟨earlier, front, back ++ [text], by simp, hfront, hearlier⟩

/-! ## Faults of a configuration -/

namespace ClusterSeed

def names (seed : ClusterSeed) : List String :=
  seed.infobases.map (·.name)

/-- No two clusters share an id, and no two infobases of a cluster share a name. -/
structure Distinct (seeds : List ClusterSeed) : Prop where
  ids : (seeds.map (·.id)).Nodup
  names : ∀ seed ∈ seeds, seed.names.Nodup

/-- The error is about the first cluster that repeats a name or an earlier id: about the first
repeated name if there is one, and about the id otherwise. -/
inductive FirstFault (seeds : List ClusterSeed) : SeedError → Prop
  | name {front back : List ClusterSeed} {seed : ClusterSeed} {name : String}
      (hsplit : seeds = front ++ seed :: back) (hfront : Distinct front)
      (hname : IsFirstRepeat seed.names name) :
      FirstFault seeds (.duplicateInfobase seed.id name)
  | id {front back : List ClusterSeed} {seed : ClusterSeed}
      (hsplit : seeds = front ++ seed :: back) (hfront : Distinct front)
      (hnames : seed.names.Nodup) (hid : seed.id ∈ front.map (·.id)) :
      FirstFault seeds (.duplicateCluster seed.id)

theorem distinct_concat_iff (seeds : List ClusterSeed) (seed : ClusterSeed) :
    Distinct (seeds ++ [seed]) ↔
      Distinct seeds ∧ seed.names.Nodup ∧ seed.id ∉ seeds.map (·.id) := by
  constructor
  · intro hdistinct
    have hids := hdistinct.ids
    rw [List.map_append, List.map_singleton, ← List.concat_eq_append, List.nodup_concat] at hids
    have hnames (other : ClusterSeed) (hother : other ∈ seeds) : other.names.Nodup :=
      hdistinct.names other (List.mem_append_left [seed] hother)
    exact ⟨⟨hids.2, hnames⟩, hdistinct.names seed (by simp), hids.1⟩
  · rintro ⟨hdistinct, hnames, hid⟩
    refine ⟨?_, fun other hother => ?_⟩
    · rw [List.map_append, List.map_singleton, ← List.concat_eq_append, List.nodup_concat]
      exact ⟨hid, hdistinct.ids⟩
    · rcases List.mem_append.mp hother with hother | hother
      · exact hdistinct.names other hother
      · rw [List.mem_singleton.mp hother]
        exact hnames

theorem FirstFault.append {seeds : List ClusterSeed} {error : SeedError}
    (hfault : FirstFault seeds error) (more : List ClusterSeed) :
    FirstFault (seeds ++ more) error := by
  have hmore {front back : List ClusterSeed} {seed : ClusterSeed}
      (hsplit : seeds = front ++ seed :: back) :
      seeds ++ more = front ++ seed :: (back ++ more) := by
    rw [hsplit, List.append_assoc, List.cons_append]
  cases hfault with
  | name hsplit hfront hname => exact .name (hmore hsplit) hfront hname
  | id hsplit hfront hnames hid => exact .id (hmore hsplit) hfront hnames hid

theorem distinct_or_exists_firstFault (seeds : List ClusterSeed) :
    Distinct seeds ∨ ∃ error, FirstFault seeds error := by
  induction seeds using List.reverseRecOn with
  | nil => exact .inl ⟨List.nodup_nil, fun seed hseed => absurd hseed List.not_mem_nil⟩
  | append_singleton seeds seed ih =>
    rcases ih with hdistinct | ⟨error, hfault⟩
    · rcases nodup_or_exists_isFirstRepeat seed.names with hnames | ⟨name, hname⟩
      · by_cases hid : seed.id ∈ seeds.map (·.id)
        · exact .inr ⟨_, .id rfl hdistinct hnames hid⟩
        · exact .inl ((distinct_concat_iff seeds seed).mpr ⟨hdistinct, hnames, hid⟩)
      · exact .inr ⟨_, .name rfl hdistinct hname⟩
    · exact .inr ⟨error, hfault.append [seed]⟩

end ClusterSeed

/-! ## Clusters as configured -/

/-- How many of the infobases take their uuids from the supply. -/
def InfobaseSeed.drawn (seeds : List InfobaseSeed) : Nat :=
  seeds.countP fun seed => seed.uuid.isNone

/-- The uuid that is given, or else the next one of the supply. -/
def InfobaseSeed.uuidOr (seed : InfobaseSeed) (next : String) : String :=
  seed.uuid.getD next

namespace ClusterSeed

/-- The cluster is as configured, when `issued` uuids of the supply are used up before. -/
structure Describes (uuids : Nat → String) (issued : Nat) (seed : ClusterSeed)
    (cluster : Cluster) : Prop where
  summary : cluster.summary =
    { uuid := seed.id
      host := seed.host.getD "localhost"
      port := seed.port.getD 1541
      name := seed.name.getD seed.id }
  infobases_length : cluster.infobases.length = seed.infobases.length
  /-- An infobase has its place, and no attribute that is not configured. -/
  infobase : ∀ front infobase back, seed.infobases = front ++ infobase :: back →
    cluster.infobases[front.length]? = some
      { clusterId := seed.id
        uuid := some (infobase.uuidOr (uuids (issued + InfobaseSeed.drawn front)))
        name := some infobase.name
        description := infobase.description }
  session : ∀ id, cluster.sessions.get? id =
    if id ∈ seed.sessions then some { uuid := id, infobaseId := "", userName := "", appId := "" }
    else none
  admins : cluster.admins = seed.admins
  infobaseUsers : cluster.infobaseUsers = seed.infobaseUsers

theorem get?_foldl_insert_unbound
    (ids : List String) (sessions : Keyed SessionEntry) (id : String) :
    (ids.foldl (fun sessions id => sessions.insert id (SessionEntry.unbound id)) sessions).get? id =
      if id ∈ ids then some (SessionEntry.unbound id) else sessions.get? id := by
  induction ids generalizing sessions with
  | nil => rfl
  | cons other others ih =>
    rw [List.foldl_cons, ih, Keyed.get?_insert]
    by_cases hother : id = other
    · simp [hother]
    · simp [hother]

theorem describes_start (uuids : Nat → String) (issued : Nat) (seed : ClusterSeed) :
    Describes uuids issued { seed with infobases := [] } seed.start where
  summary := rfl
  infobases_length := rfl
  infobase front infobase back hsplit := absurd hsplit (by simp)
  session id := get?_foldl_insert_unbound seed.sessions Keyed.empty id
  admins := rfl
  infobaseUsers := rfl

namespace Describes

variable {uuids : Nat → String} {issued : Nat} {seed : ClusterSeed} {cluster : Cluster}

theorem map_name (h : seed.Describes uuids issued cluster) :
    cluster.infobases.map (·.name) = seed.names.map some := by
  refine List.ext_getElem? fun place => ?_
  by_cases hplace : place < seed.infobases.length
  · have hsplit : seed.infobases =
        seed.infobases.take place ++ seed.infobases[place] :: seed.infobases.drop (place + 1) := by
      rw [List.getElem_cons_drop, List.take_append_drop]
    have hrecord := h.infobase _ _ _ hsplit
    rw [List.length_take_of_le hplace.le] at hrecord
    simp [names, hrecord, hplace]
  · have hlength : cluster.infobases.length ≤ place := by
      rw [h.infobases_length]
      exact not_lt.mp hplace
    simp [names, hlength, not_lt.mp hplace]

theorem hasName_iff (h : seed.Describes uuids issued cluster) (name : String) :
    cluster.hasName name = true ↔ name ∈ seed.names := by
  have hmem : name ∈ seed.names ↔ some name ∈ cluster.infobases.map (·.name) := by
    rw [h.map_name]
    simp
  rw [hmem]
  simp [Cluster.hasName]

theorem summary_uuid (h : seed.Describes uuids issued cluster) :
    cluster.summary.uuid = seed.id := by
  rw [h.summary]

/-- One more infobase is added at the end. -/
theorem concat (h : seed.Describes uuids issued cluster) (infobase : InfobaseSeed) :
    Describes uuids issued { seed with infobases := seed.infobases ++ [infobase] }
      { cluster with
        infobases := cluster.infobases ++ [infobase.info cluster.summary.uuid
          (infobase.uuidOr (uuids (issued + InfobaseSeed.drawn seed.infobases)))] } where
  summary := h.summary
  infobases_length := by simp [h.infobases_length]
  infobase := by
    intro front other back hsplit
    rcases List.eq_nil_or_concat back with rfl | ⟨back, last, rfl⟩
    · obtain ⟨rfl, hlast⟩ := List.append_inj' hsplit rfl
      cases hlast
      rw [List.getElem?_append_right h.infobases_length.le, h.infobases_length, Nat.sub_self,
        h.summary_uuid]
      rfl
    · have hsplit' : seed.infobases ++ [infobase] = (front ++ other :: back) ++ [last] := by
        simpa using hsplit
      obtain ⟨hseeds, -⟩ := List.append_inj' hsplit' rfl
      have hrecord := h.infobase front other back hseeds
      rw [List.getElem?_append_left (List.getElem?_eq_some_iff.mp hrecord).1, hrecord]
  session := h.session
  admins := h.admins
  infobaseUsers := h.infobaseUsers

end Describes

/-! ## Adding infobases -/

variable (uuids : Nat → String)

theorem addInfobases_append
    (front back : List InfobaseSeed) (cluster : Cluster) (issued : Nat) :
    addInfobases uuids (front ++ back) cluster issued =
      (addInfobases uuids front cluster issued).bind fun added =>
        addInfobases uuids back added.1 added.2 := by
  induction front generalizing cluster issued with
  | nil => rfl
  | cons seed front ih =>
    rw [List.cons_append, addInfobases, addInfobases]
    by_cases hname : cluster.hasName seed.name = true
    · rw [if_pos hname, if_pos hname]
      rfl
    · rw [if_neg hname, if_neg hname]
      exact ih _ _

theorem addInfobases_singleton
    {seed : InfobaseSeed} {cluster : Cluster} (hname : cluster.hasName seed.name = false)
    (issued : Nat) :
    addInfobases uuids [seed] cluster issued =
      .ok ({ cluster with
          infobases := cluster.infobases ++
            [seed.info cluster.summary.uuid (seed.uuidOr (uuids issued))] },
        issued + InfobaseSeed.drawn [seed]) := by
  rw [addInfobases, hname]
  obtain ⟨uuid, name, description⟩ := seed
  cases uuid with
  | none => rfl
  | some uuid => rfl

theorem addInfobases_of_hasName
    {seed : InfobaseSeed} {cluster : Cluster} (hname : cluster.hasName seed.name = true)
    (seeds : List InfobaseSeed) (issued : Nat) :
    addInfobases uuids (seed :: seeds) cluster issued =
      .error (.duplicateInfobase cluster.summary.uuid seed.name) := by
  rw [addInfobases, if_pos hname]

theorem exists_addInfobases_of_nodup
    (seed : ClusterSeed) (hnames : seed.names.Nodup) (issued : Nat) :
    ∃ cluster,
      addInfobases uuids seed.infobases seed.start issued =
        .ok (cluster, issued + InfobaseSeed.drawn seed.infobases) ∧
      seed.Describes uuids issued cluster := by
  -- The cluster stays the same while its list of infobases grows.
  suffices hgrow : ∀ infobases : List InfobaseSeed, (infobases.map (·.name)).Nodup →
      ∃ cluster,
        addInfobases uuids infobases seed.start issued =
          .ok (cluster, issued + InfobaseSeed.drawn infobases) ∧
        Describes uuids issued { seed with infobases := infobases } cluster from
    hgrow seed.infobases hnames
  intro infobases hnames
  induction infobases using List.reverseRecOn with
  | nil => exact ⟨seed.start, rfl, describes_start uuids issued seed⟩
  | append_singleton infobases infobase ih =>
    rw [List.map_append, List.map_singleton, ← List.concat_eq_append, List.nodup_concat] at hnames
    obtain ⟨hother, hnames⟩ := hnames
    obtain ⟨cluster, hadd, hdescribes⟩ := ih hnames
    have hfree : cluster.hasName infobase.name = false :=
      Bool.eq_false_iff.mpr fun hname => hother ((hdescribes.hasName_iff _).mp hname)
    refine ⟨_, ?_, hdescribes.concat infobase⟩
    rw [addInfobases_append, hadd]
    show addInfobases uuids [infobase] cluster (issued + InfobaseSeed.drawn infobases) = _
    rw [addInfobases_singleton uuids hfree, InfobaseSeed.drawn, InfobaseSeed.drawn,
      InfobaseSeed.drawn, List.countP_append, Nat.add_assoc]

theorem addInfobases_of_isFirstRepeat
    (seed : ClusterSeed) {name : String} (hname : IsFirstRepeat seed.names name) (issued : Nat) :
    addInfobases uuids seed.infobases seed.start issued =
      .error (.duplicateInfobase seed.id name) := by
  obtain ⟨earlier, later, hsplit, hearlier, hmem⟩ := hname
  obtain ⟨front, rest, hinfobases, rfl, hrest⟩ := List.map_eq_append_iff.mp hsplit
  obtain ⟨infobase, back, rfl, rfl, -⟩ := List.map_eq_cons_iff.mp hrest
  obtain ⟨cluster, hadd, hdescribes⟩ :=
    exists_addInfobases_of_nodup uuids { seed with infobases := front } hearlier issued
  have hadd' : addInfobases uuids front seed.start issued =
      .ok (cluster, issued + InfobaseSeed.drawn front) := hadd
  have htaken : cluster.hasName infobase.name = true := (hdescribes.hasName_iff _).mpr hmem
  rw [hinfobases, addInfobases_append, hadd']
  show addInfobases uuids (infobase :: back) cluster _ = _
  rw [addInfobases_of_hasName uuids htaken, hdescribes.summary_uuid]

end ClusterSeed

/-! ## Services as configured -/

namespace Service

/-- The service holds what is configured and nothing else. -/
structure Holds (uuids : Nat → String) (seed : StoreSeed) (service : Service) : Prop where
  agentAdmins : service.store.agentAdmins = seed.agentAdmins
  issued : service.issued = InfobaseSeed.drawn (seed.clusters.flatMap (·.infobases))
  /-- The uuids of the supply are used up in the order of the configuration. -/
  cluster : ∀ front clusterSeed back, seed.clusters = front ++ clusterSeed :: back →
    ∃ cluster, service.store.clusters.get? clusterSeed.id = some cluster ∧
      clusterSeed.Describes uuids (InfobaseSeed.drawn (front.flatMap (·.infobases))) cluster
  no_other : ∀ id, id ∉ seed.clusters.map (·.id) → service.store.clusters.get? id = none

namespace Holds

variable {uuids : Nat → String} {seed : StoreSeed} {service : Service}

theorem contains_iff (h : service.Holds uuids seed) (id : String) :
    service.store.clusters.contains id = true ↔ id ∈ seed.clusters.map (·.id) := by
  unfold Keyed.contains
  constructor
  · intro hcontains
    by_contra hid
    rw [h.no_other id hid] at hcontains
    cases hcontains
  · intro hid
    obtain ⟨clusterSeed, hmem, rfl⟩ := List.mem_map.mp hid
    obtain ⟨front, back, hsplit⟩ := List.append_of_mem hmem
    obtain ⟨cluster, hcluster, -⟩ := h.cluster front clusterSeed back hsplit
    rw [hcluster]
    rfl

/-- One more cluster is put under its own id. -/
theorem concat
    (h : service.Holds uuids seed) {clusterSeed : ClusterSeed}
    (hid : clusterSeed.id ∉ seed.clusters.map (·.id)) {cluster : Cluster}
    (hcluster : clusterSeed.Describes uuids service.issued cluster) :
    Holds uuids { seed with clusters := seed.clusters ++ [clusterSeed] }
      ⟨service.store.putCluster clusterSeed.id cluster,
        service.issued + InfobaseSeed.drawn clusterSeed.infobases⟩ where
  agentAdmins := h.agentAdmins
  issued := by
    simp [h.issued, InfobaseSeed.drawn, List.flatMap_append]
  cluster := by
    intro front other back hsplit
    simp only [Store.putCluster, Keyed.get?_insert]
    rcases List.eq_nil_or_concat back with rfl | ⟨back, last, rfl⟩
    · obtain ⟨rfl, hlast⟩ := List.append_inj' hsplit rfl
      cases hlast
      rw [h.issued] at hcluster
      exact ⟨cluster, if_pos rfl, hcluster⟩
    · have hsplit' : seed.clusters ++ [clusterSeed] = (front ++ other :: back) ++ [last] := by
        simpa using hsplit
      obtain ⟨hclusters, -⟩ := List.append_inj' hsplit' rfl
      obtain ⟨stored, hstored, hdescribes⟩ := h.cluster front other back hclusters
      have hother : other.id ≠ clusterSeed.id := by
        rintro hsame
        apply hid
        rw [← hsame, hclusters]
        simp
      rw [if_neg hother]
      exact ⟨stored, hstored, hdescribes⟩
  no_other := by
    intro id hother
    rw [List.map_append, List.mem_append, not_or, List.map_singleton, List.mem_singleton] at hother
    simp only [Store.putCluster, Keyed.get?_insert]
    rw [if_neg hother.2]
    exact h.no_other id hother.1

end Holds

/-! ## Adding clusters -/

variable (uuids : Nat → String)

theorem addClusters_append (front back : List ClusterSeed) (service : Service) :
    addClusters uuids (front ++ back) service =
      (addClusters uuids front service).bind (addClusters uuids back) := by
  induction front generalizing service with
  | nil => rfl
  | cons seed front ih =>
    simp only [List.cons_append, addClusters, bind, Except.bind]
    cases ClusterSeed.addInfobases uuids seed.infobases seed.start service.issued with
    | error error => rfl
    | ok added =>
      by_cases hid : service.store.clusters.contains seed.id = true
      · simp only [if_pos hid]
      · simp only [if_neg hid]
        exact ih _

theorem exists_ofSeed_of_distinct
    (seed : StoreSeed) (hdistinct : ClusterSeed.Distinct seed.clusters) :
    ∃ service, ofSeed uuids seed = .ok service ∧ service.Holds uuids seed := by
  obtain ⟨clusters, agentAdmins⟩ := seed
  simp only [ofSeed]
  induction clusters using List.reverseRecOn with
  | nil =>
    refine ⟨_, rfl, rfl, rfl, fun front seed back hsplit => ?_, fun _ _ => rfl⟩
    exact absurd hsplit (by simp)
  | append_singleton clusters clusterSeed ih =>
    obtain ⟨hdistinct, hnames, hid⟩ := (ClusterSeed.distinct_concat_iff _ _).mp hdistinct
    obtain ⟨service, hadd, hholds⟩ := ih hdistinct
    obtain ⟨cluster, hinfobases, hdescribes⟩ :=
      ClusterSeed.exists_addInfobases_of_nodup uuids clusterSeed hnames service.issued
    have hfree : ¬ service.store.clusters.contains clusterSeed.id = true := fun hcontains =>
      hid ((hholds.contains_iff clusterSeed.id).mp hcontains)
    refine ⟨_, ?_, hholds.concat hid hdescribes⟩
    rw [addClusters_append, hadd]
    simp only [Except.bind, addClusters, bind, hinfobases, if_neg hfree]

theorem ofSeed_of_firstFault
    (seed : StoreSeed) {error : SeedError}
    (hfault : ClusterSeed.FirstFault seed.clusters error) :
    ofSeed uuids seed = .error error := by
  cases hfault with
  | @name front back clusterSeed name hsplit hfront hname =>
    obtain ⟨service, hadd, -⟩ := exists_ofSeed_of_distinct uuids ⟨front, seed.agentAdmins⟩ hfront
    have hinfobases :=
      ClusterSeed.addInfobases_of_isFirstRepeat uuids clusterSeed hname service.issued
    rw [ofSeed] at hadd ⊢
    rw [hsplit, addClusters_append, hadd]
    simp only [Except.bind, addClusters, bind, hinfobases]
  | @id front back clusterSeed hsplit hfront hnames hid =>
    obtain ⟨service, hadd, hholds⟩ :=
      exists_ofSeed_of_distinct uuids ⟨front, seed.agentAdmins⟩ hfront
    obtain ⟨cluster, hinfobases, -⟩ :=
      ClusterSeed.exists_addInfobases_of_nodup uuids clusterSeed hnames service.issued
    have htaken : service.store.clusters.contains clusterSeed.id = true :=
      (hholds.contains_iff clusterSeed.id).mpr hid
    rw [ofSeed] at hadd ⊢
    rw [hsplit, addClusters_append, hadd]
    simp only [Except.bind, addClusters, bind, hinfobases, if_pos htaken]

/-! ## Every configuration -/

theorem ofSeed_cases (seed : StoreSeed) :
    (ClusterSeed.Distinct seed.clusters ∧
        ∃ service, ofSeed uuids seed = .ok service ∧ service.Holds uuids seed) ∨
      ∃ error, ClusterSeed.FirstFault seed.clusters error ∧ ofSeed uuids seed = .error error := by
  rcases ClusterSeed.distinct_or_exists_firstFault seed.clusters with hdistinct | ⟨error, hfault⟩
  · exact .inl ⟨hdistinct, exists_ofSeed_of_distinct uuids seed hdistinct⟩
  · exact .inr ⟨error, hfault, ofSeed_of_firstFault uuids seed hfault⟩

theorem holds_of_ofSeed
    {uuids : Nat → String} {seed : StoreSeed} {service : Service}
    (hseed : ofSeed uuids seed = .ok service) : service.Holds uuids seed := by
  rcases ofSeed_cases uuids seed with ⟨-, other, hother, hholds⟩ | ⟨error, -, herror⟩
  · cases hseed.symm.trans hother
    exact hholds
  · cases hseed.symm.trans herror

/-- What a service is made of a configuration, and when there is none. -/
structure Seeding (uuids : Nat → String) (seed : StoreSeed) : Prop where
  accepted_iff : (∃ service, ofSeed uuids seed = .ok service) ↔ ClusterSeed.Distinct seed.clusters
  error_iff : ∀ error,
    ofSeed uuids seed = .error error ↔ ClusterSeed.FirstFault seed.clusters error
  holds : ∀ service, ofSeed uuids seed = .ok service → service.Holds uuids seed

theorem seeding_ofSeed (seed : StoreSeed) : Seeding uuids seed where
  accepted_iff := by
    constructor
    · rintro ⟨service, hservice⟩
      rcases ofSeed_cases uuids seed with ⟨hdistinct, -⟩ | ⟨error, -, herror⟩
      · exact hdistinct
      · cases hservice.symm.trans herror
    · intro hdistinct
      obtain ⟨service, hservice, -⟩ := exists_ofSeed_of_distinct uuids seed hdistinct
      exact ⟨service, hservice⟩
  error_iff error := by
    constructor
    · intro herror
      rcases ofSeed_cases uuids seed with ⟨-, service, hservice, -⟩ | ⟨other, hfault, hother⟩
      · cases hservice.symm.trans herror
      · cases hother.symm.trans herror
        exact hfault
    · exact ofSeed_of_firstFault uuids seed
  holds service := holds_of_ofSeed

/-- A name is repeated in a cluster whose id is repeated too. -/
example (uuids : Nat → String) (stock : InfobaseSeed) :
    ofSeed uuids ⟨[⟨"c-1", none, none, none, [], [], [], []⟩,
      ⟨"c-1", none, none, none, [stock, stock], [], [], []⟩], []⟩ =
      .error (.duplicateInfobase "c-1" stock.name) := by
  have hfirst : ClusterSeed.Distinct [⟨"c-1", none, none, none, [], [], [], []⟩] :=
    ⟨List.nodup_singleton "c-1", by simp [ClusterSeed.names]⟩
  have hrepeats : IsFirstRepeat [stock.name, stock.name] stock.name :=
    ⟨[stock.name], [], rfl, List.nodup_singleton _, List.mem_singleton_self _⟩
  exact ofSeed_of_firstFault uuids _ (.name (List.singleton_append).symm hfirst hrepeats)

end Service

end InfobaseGateway
