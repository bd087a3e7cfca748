import InfobaseGateway.Proofs.Store.Effect

/-!
# Patches laid over records

A patch decides about the attributes that it carries and leaves the others alone. So patches in a
row are one patch, in which the later one wins; patches that carry different attributes do not
depend on their order; and a patch that is applied again changes nothing. After many patches an
attribute has the value of the last one that carried it.
-/

namespace InfobaseGateway

/-- Attributes are known by their values. -/
theorem Attributes.eq_of_get? {a b : Attributes} (h : ∀ key, a.get? key = b.get? key) : a = b := by
  cases a
  cases b
  simp only [mk.injEq]
  exact ⟨h .name, h .dbms, h .dbServer, h .dbName, h .dbUser, h .dbPassword, h .locale,
    h .dateOffset, h .description, h .securityLevel, h .sessionsDeny, h .scheduledJobsDeny,
    h .deniedFrom, h .deniedTo, h .deniedMessage, h .permissionCode, h .licenseDistribution⟩

namespace InfobaseInfo

variable {record p q r : InfobaseInfo}

theorem get?_patchedBy (record patch : InfobaseInfo) (key : AttributeName) :
    (record.patchedBy patch).toAttributes.get? key =
      (patch.toAttributes.get? key <|> record.toAttributes.get? key) :=
  Attributes.get?_over patch.toAttributes record.toAttributes key

/-- Two ways to patch a record are the same if they give every attribute the same value. -/
theorem eq_of_get?
    {a b : InfobaseInfo} (hcluster : a.clusterId = b.clusterId) (huuid : a.uuid = b.uuid)
    (h : ∀ key, a.toAttributes.get? key = b.toAttributes.get? key) : a = b := by
  have hattributes := Attributes.eq_of_get? h
  cases a
  cases b
  cases hattributes
  cases hcluster
  cases huuid
  rfl

/-! ## Two patches -/

/-- Two patches in a row are the one patch that carries what the second one carries, and elsewhere
what the first one carries. -/
theorem patchedBy_patchedBy
    (hr : ∀ key, r.toAttributes.get? key = (q.toAttributes.get? key <|> p.toAttributes.get? key))
    (record : InfobaseInfo) : (record.patchedBy p).patchedBy q = record.patchedBy r := by
  refine eq_of_get? rfl rfl fun key => ?_
  rw [get?_patchedBy, get?_patchedBy, get?_patchedBy, hr]
  cases q.toAttributes.get? key with
  | none => rfl
  | some value => rfl

/-- Patches that carry different attributes can change places. -/
theorem patchedBy_comm
    (hdisjoint : ∀ key, p.toAttributes.get? key = none ∨ q.toAttributes.get? key = none)
    (record : InfobaseInfo) :
    (record.patchedBy p).patchedBy q = (record.patchedBy q).patchedBy p := by
  refine eq_of_get? rfl rfl fun key => ?_
  simp only [get?_patchedBy]
  rcases hdisjoint key with hp | hq
  · rw [hp]
    rfl
  · rw [hq]
    rfl

/-- A patch that is applied again changes nothing. -/
theorem patchedBy_self (record p : InfobaseInfo) :
    (record.patchedBy p).patchedBy p = record.patchedBy p := by
  refine patchedBy_patchedBy (fun key => ?_) record
  cases p.toAttributes.get? key with
  | none => rfl
  | some value => rfl

/-- The laws of patches: two in a row are one, in which the later one wins; those that carry
different attributes commute; and applying one again changes nothing. -/
structure PatchLaws : Prop where
  single : ∀ p q : InfobaseInfo, ∃ r : InfobaseInfo,
    ∀ key, r.toAttributes.get? key = (q.toAttributes.get? key <|> p.toAttributes.get? key)
  compose : ∀ record p q r : InfobaseInfo,
    (∀ key, r.toAttributes.get? key = (q.toAttributes.get? key <|> p.toAttributes.get? key)) →
      (record.patchedBy p).patchedBy q = record.patchedBy r
  commute : ∀ record p q : InfobaseInfo,
    (∀ key, p.toAttributes.get? key = none ∨ q.toAttributes.get? key = none) →
      (record.patchedBy p).patchedBy q = (record.patchedBy q).patchedBy p
  again : ∀ record p : InfobaseInfo, (record.patchedBy p).patchedBy p = record.patchedBy p

theorem patchLaws : PatchLaws where
  single p q := ⟨p.patchedBy q, get?_patchedBy p q⟩
  compose record _ _ _ hr := patchedBy_patchedBy hr record
  commute record _ _ hdisjoint := patchedBy_comm hdisjoint record
  again := patchedBy_self

/-! ## Many patches -/

/-- The record after patches in a row. -/
def patchedByAll (record : InfobaseInfo) (patches : List InfobaseInfo) : InfobaseInfo :=
  patches.foldl patchedBy record

theorem patchedByAll_append (record : InfobaseInfo) (first second : List InfobaseInfo) :
    record.patchedByAll (first ++ second) = (record.patchedByAll first).patchedByAll second :=
  List.foldl_append

/-- An attribute that no patch carries keeps its value. -/
theorem get?_patchedByAll_of_forall
    {patches : List InfobaseInfo} {key : AttributeName}
    (hnone : ∀ patch ∈ patches, patch.toAttributes.get? key = none) (record : InfobaseInfo) :
    (record.patchedByAll patches).toAttributes.get? key = record.toAttributes.get? key := by
  induction patches generalizing record with
  | nil => rfl
  | cons patch patches ih =>
    obtain ⟨hpatch, hothers⟩ := List.forall_mem_cons.mp hnone
    have hrest := ih hothers (record.patchedBy patch)
    rw [get?_patchedBy, hpatch] at hrest
    exact hrest

/-- An attribute has the value of the last patch that carries it. -/
theorem get?_patchedByAll_of_last
    {patch : InfobaseInfo} {key : AttributeName} {value : key.Value} {later : List InfobaseInfo}
    (hpatch : patch.toAttributes.get? key = some value)
    (hlater : ∀ other ∈ later, other.toAttributes.get? key = none)
    (record : InfobaseInfo) (earlier : List InfobaseInfo) :
    (record.patchedByAll (earlier ++ patch :: later)).toAttributes.get? key = some value := by
  rw [patchedByAll_append]
  show (((record.patchedByAll earlier).patchedBy patch).patchedByAll later).toAttributes.get? key =
    some value
  rw [get?_patchedByAll_of_forall hlater, get?_patchedBy, hpatch]
  rfl

end InfobaseInfo

/-! ## Patches in a store -/

namespace Cluster

/-- The first record of a uuid is the one that is found. -/
theorem infobase?_of_split
    {cluster : Cluster} {uuid : String} {front back : List InfobaseInfo} {record : InfobaseInfo}
    (hsplit : cluster.infobases = front ++ record :: back) (huuid : record.uuid = some uuid)
    (hfront : ∀ other ∈ front, other.uuid ≠ some uuid) :
    cluster.infobase? (some uuid) = some record := by
  have hnone : front.find? (fun infobase => infobase.uuid.isSome && infobase.uuid = some uuid) =
      none := by
    rw [List.find?_eq_none]
    intro other hother
    simp [hfront other hother]
  rw [infobase?, hsplit, List.find?_append, hnone]
  simp [huuid]

/-- After its first infobase of a uuid is changed, that infobase is the first one of the uuid, if
the change keeps the uuid. -/
theorem infobase?_modifyInfobase
    {cluster : Cluster} {uuid : String} {record : InfobaseInfo}
    (hfound : cluster.infobase? (some uuid) = some record) {change : InfobaseInfo → InfobaseInfo}
    (hkeeps : (change record).uuid = record.uuid) :
    (cluster.modifyInfobase (some uuid) change).infobase? (some uuid) = some (change record) := by
  obtain ⟨front, back, hsplit, huuid, hfront⟩ := split_of_infobase? hfound
  have hmodified : (cluster.modifyInfobase (some uuid) change).infobases =
      front ++ change record :: back := by
    rw [modifyInfobase, hsplit]
    exact modifyFirst_append back change hfront huuid
  exact infobase?_of_split hmodified (hkeeps.trans huuid) hfront

/-- A record of another uuid plays no part in what is found. -/
theorem infobase?_of_split_of_ne
    {old new : Cluster} {uuid : String} {front back : List InfobaseInfo}
    {record changed : InfobaseInfo} (hold : old.infobases = front ++ record :: back)
    (hnew : new.infobases = front ++ changed :: back) (hrecord : record.uuid ≠ some uuid)
    (hchanged : changed.uuid ≠ some uuid) :
    new.infobase? (some uuid) = old.infobase? (some uuid) := by
  rw [infobase?, infobase?, hold, hnew, List.find?_append, List.find?_append]
  simp [hrecord, hchanged]

end Cluster

namespace Store

/-- The infobase that a patch is for is patched. -/
theorem Patches.infobase?
    {before after : Store} {clusterId infobaseId : String} {patch record : InfobaseInfo}
    (h : before.Patches after clusterId infobaseId patch.toAttributes)
    (hfound : before.infobase? clusterId infobaseId = some record) :
    after.infobase? clusterId infobaseId = some (record.patchedBy patch) := by
  obtain ⟨old, front, first, back, changed, hsplit, huuid, hfront, hreplaces, hcluster, hkeeps,
    -, hget⟩ := h
  have hfirst : before.infobase? clusterId infobaseId = some first := by
    rw [Store.infobase?, hreplaces.old_stored]
    exact Cluster.infobase?_of_split hsplit huuid hfront
  cases hfirst.symm.trans hfound
  have hchanged : changed = record.patchedBy patch :=
    InfobaseInfo.eq_of_get? hcluster hkeeps fun key =>
      (hget key).trans (InfobaseInfo.get?_patchedBy record patch key).symm
  rw [Store.infobase?, hreplaces.new_stored, ← hchanged]
  exact Cluster.infobase?_of_split rfl (hkeeps.trans huuid) hfront

/-- Every other infobase stays as it is. -/
theorem Patches.infobase?_of_ne
    {before after : Store} {clusterId infobaseId id member : String} {patch : Attributes}
    (h : before.Patches after id member patch)
    (hother : ¬(id = clusterId ∧ member = infobaseId)) :
    after.infobase? clusterId infobaseId = before.infobase? clusterId infobaseId := by
  obtain ⟨old, front, record, back, changed, hsplit, huuid, -, hreplaces, -, hkeeps, -⟩ := h
  by_cases hcluster : id = clusterId
  · subst hcluster
    have hmember : record.uuid ≠ some infobaseId := by
      rw [huuid]
      exact fun hsame => hother ⟨rfl, Option.some.inj hsame⟩
    rw [Store.infobase?, Store.infobase?, hreplaces.old_stored, hreplaces.new_stored]
    exact Cluster.infobase?_of_split_of_ne hsplit rfl hmember (hkeeps.symm ▸ hmember)
  · rw [Store.infobase?, Store.infobase?, hreplaces.others clusterId (Ne.symm hcluster)]

/-- A patch for an infobase that is stored is answered with the patched record, which is the one
that is stored from then on. -/
theorem handle_updateInfobase
    {store : Store} {patch record : InfobaseInfo} {infobaseId : String}
    (huuid : patch.uuid = some infobaseId)
    (hfound : store.infobase? patch.clusterId infobaseId = some record) (uuid : String) :
    ∃ after,
      store.handle uuid (.updateInfobase patch) = .ok (.infobase (record.patchedBy patch), after) ∧
        after.infobase? patch.clusterId infobaseId = some (record.patchedBy patch) := by
  obtain ⟨cluster, hget, hinfobase⟩ := Option.bind_eq_some_iff.mp hfound
  refine ⟨store.putCluster patch.clusterId
    (cluster.modifyInfobase (some infobaseId) (·.patchedBy patch)), ?_, ?_⟩
  · simp only [handle, cluster_of_get? hget, bind, Except.bind, huuid, hinfobase]
  · have hkept :
        (cluster.modifyInfobase (some infobaseId) (·.patchedBy patch)).infobase?
          (some infobaseId) = some (record.patchedBy patch) :=
      Cluster.infobase?_modifyInfobase hinfobase rfl
    simp [Store.infobase?, putCluster, hkept]

end Store

end InfobaseGateway
