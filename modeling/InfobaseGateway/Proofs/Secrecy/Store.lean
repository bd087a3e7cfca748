import InfobaseGateway.Proofs.Secrecy.Blot
import InfobaseGateway.Proofs.Service.Course
import InfobaseGateway.Proofs.Store.Answers
import InfobaseGateway.Proofs.Store.Keyed

/-!
# The service does not look at passwords

Whatever is asked of a store, blotting out passwords first and asking then gives the same as asking
first and blotting out then. The one exception is a check of credentials, which may end differently
but changes nothing.
-/

namespace InfobaseGateway

/-! ## Stores -/

def Cluster.blotted (cluster : Cluster) : Cluster :=
  { cluster with infobases := cluster.infobases.map InfobaseInfo.blotted }

def Store.blotted (store : Store) : Store :=
  { store with clusters := store.clusters.map Cluster.blotted }

namespace InfobaseInfo

theorem patchedBy_blotted (record patch : InfobaseInfo) :
    record.blotted.patchedBy patch.blotted = (record.patchedBy patch).blotted := by
  have hpassword :
      (patch.dbPassword.map blot <|> record.dbPassword.map blot) =
        (patch.dbPassword <|> record.dbPassword).map blot := by
    cases patch.dbPassword with
    | none => rfl
    | some password => rfl
  simp only [patchedBy, blotted, Attributes.over, hpassword]

end InfobaseInfo

namespace Cluster

theorem infobase?_blotted (cluster : Cluster) (uuid : Option String) :
    cluster.blotted.infobase? uuid = (cluster.infobase? uuid).map InfobaseInfo.blotted := by
  simp only [infobase?, blotted, List.find?_map]
  rfl

theorem hasName_blotted (cluster : Cluster) (name : String) :
    cluster.blotted.hasName name = cluster.hasName name := by
  simp only [hasName, blotted, List.any_map]
  rfl

theorem append_blotted (cluster : Cluster) (info : InfobaseInfo) :
    cluster.blotted.append info.blotted = (cluster.append info).blotted := by
  simp [append, blotted]

theorem modifyFirst_blotted
    (uuid : Option String) (patch : InfobaseInfo) (infobases : List InfobaseInfo) :
    modifyFirst uuid (·.patchedBy patch.blotted) (infobases.map InfobaseInfo.blotted) =
      (modifyFirst uuid (·.patchedBy patch) infobases).map InfobaseInfo.blotted := by
  induction infobases with
  | nil => rfl
  | cons infobase rest ih =>
    simp only [List.map_cons, modifyFirst, ih]
    by_cases hfirst : (infobase.uuid.isSome && decide (infobase.uuid = uuid)) = true
    · have hfirst' :
          (infobase.blotted.uuid.isSome && decide (infobase.blotted.uuid = uuid)) = true :=
        hfirst
      rw [if_pos hfirst, if_pos hfirst', List.map_cons, InfobaseInfo.patchedBy_blotted]
    · have hfirst' :
          ¬(infobase.blotted.uuid.isSome && decide (infobase.blotted.uuid = uuid)) = true :=
        hfirst
      rw [if_neg hfirst, if_neg hfirst', List.map_cons]

theorem modifyInfobase_blotted (cluster : Cluster) (uuid : Option String) (patch : InfobaseInfo) :
    cluster.blotted.modifyInfobase uuid (·.patchedBy patch.blotted) =
      (cluster.modifyInfobase uuid (·.patchedBy patch)).blotted := by
  simp only [modifyInfobase, blotted, modifyFirst_blotted]

theorem removeInfobase_blotted (cluster : Cluster) (uuid : Option String) :
    cluster.blotted.removeInfobase uuid = (cluster.removeInfobase uuid).blotted := by
  simp only [removeInfobase, blotted, List.eraseP_map]
  rfl

end Cluster

namespace Store

variable (store : Store)

theorem cluster_blotted (id : String) :
    store.blotted.cluster id = (store.cluster id).map Cluster.blotted := by
  simp only [cluster, blotted, Keyed.get?_map]
  cases store.clusters.get? id with
  | none => rfl
  | some cluster => rfl

theorem putCluster_blotted (id : String) (cluster : Cluster) :
    store.blotted.putCluster id cluster.blotted = (store.putCluster id cluster).blotted := by
  simp only [putCluster, blotted, Keyed.insert_map]

theorem accounts_blotted (scope : AuthScope) :
    store.blotted.accounts scope = store.accounts scope := by
  cases scope with
  | agent => rfl
  | cluster id | infobase id =>
    simp only [accounts, cluster_blotted]
    cases store.cluster id with
    | error rejection => rfl
    | ok cluster => rfl

/-- The answer of a store without the contents of its passwords. -/
def blotAnswer (answer : EndpointResponse × Store) : EndpointResponse × Store :=
  (answer.1.blotted, answer.2.blotted)

variable {store}

/-- Most answers come out of one cluster. -/
theorem cluster_blotted_bind
    (id : String) {f g : Cluster → Except Rejection (EndpointResponse × Store)}
    (hrest : ∀ cluster : Cluster, g cluster.blotted = (f cluster).map blotAnswer) :
    (store.blotted.cluster id >>= g) = (store.cluster id >>= f).map blotAnswer := by
  rw [cluster_blotted]
  cases store.cluster id with
  | error rejection => rfl
  | ok cluster => exact hrest cluster

/-- An answer that comes with a changed cluster. -/
theorem answer_putCluster_blotted
    (response : EndpointResponse) (id : String) (cluster : Cluster) :
    (.ok (response.blotted, store.blotted.putCluster id cluster.blotted) :
        Except Rejection (EndpointResponse × Store)) =
      (Except.ok (response, store.putCluster id cluster)).map blotAnswer := by
  rw [putCluster_blotted]
  rfl

theorem handle_createInfobase_blotted (uuid : String) (info : InfobaseInfo) :
    store.blotted.handle uuid (.createInfobase info.blotted) =
      (store.handle uuid (.createInfobase info)).map blotAnswer := by
  refine cluster_blotted_bind info.clusterId fun cluster => ?_
  cases hname : info.name with
  | none =>
    have hname' : info.blotted.name = none := hname
    simp only [hname']
    rfl
  | some name =>
    have hname' : info.blotted.name = some name := hname
    simp only [hname', Cluster.hasName_blotted]
    cases cluster.hasName name with
    | true => rfl
    | false =>
      have hanswer :=
        @answer_putCluster_blotted store (.infobase { info with uuid := some uuid })
          info.clusterId (cluster.append { info with uuid := some uuid })
      rw [← Cluster.append_blotted] at hanswer
      exact hanswer

theorem handle_updateInfobase_blotted (uuid : String) (patch : InfobaseInfo) :
    store.blotted.handle uuid (.updateInfobase patch.blotted) =
      (store.handle uuid (.updateInfobase patch)).map blotAnswer := by
  refine cluster_blotted_bind patch.clusterId fun cluster => ?_
  have hinfobase := cluster.infobase?_blotted patch.uuid
  have hafter := cluster.modifyInfobase_blotted patch.uuid patch
  have huuid : patch.blotted.uuid = patch.uuid := rfl
  simp only [huuid, hinfobase, hafter]
  cases cluster.infobase? patch.uuid with
  | none => rfl
  | some infobase =>
    simp only [Option.map_some, InfobaseInfo.patchedBy_blotted]
    exact answer_putCluster_blotted (.infobase (infobase.patchedBy patch)) patch.clusterId _

theorem handle_unregisterInfobase_blotted (uuid : String) (info : InfobaseInfo) :
    store.blotted.handle uuid (.unregisterInfobase info.blotted) =
      (store.handle uuid (.unregisterInfobase info)).map blotAnswer := by
  refine cluster_blotted_bind info.clusterId fun cluster => ?_
  have hinfobase := cluster.infobase?_blotted info.uuid
  have hafter := cluster.removeInfobase_blotted info.uuid
  have huuid : info.blotted.uuid = info.uuid := rfl
  simp only [huuid, hinfobase, hafter]
  cases cluster.infobase? info.uuid with
  | none => rfl
  | some infobase =>
    exact answer_putCluster_blotted (.infobase infobase) info.clusterId _

theorem handle_terminateSession_blotted (uuid : String) (session : SessionInfo) :
    store.blotted.handle uuid (.terminateSession session) =
      (store.handle uuid (.terminateSession session)).map blotAnswer := by
  refine cluster_blotted_bind session.clusterId fun cluster => ?_
  have hsessions : cluster.blotted.sessions = cluster.sessions := rfl
  rw [hsessions]
  by_cases hstored : cluster.sessions.contains session.uuid = true
  · rw [if_pos hstored, if_pos hstored]
    exact answer_putCluster_blotted (.session session) session.clusterId
      { cluster with sessions := cluster.sessions.erase session.uuid }
  · rw [if_neg hstored, if_neg hstored]
    rfl

theorem handle_getInfobaseSessions_blotted (uuid id infobaseId : String) :
    store.blotted.handle uuid (.getInfobaseSessions id infobaseId) =
      (store.handle uuid (.getInfobaseSessions id infobaseId)).map blotAnswer := by
  refine cluster_blotted_bind id fun cluster => ?_
  rw [Cluster.infobase?_blotted]
  cases cluster.infobase? (some infobaseId) with
  | none => rfl
  | some infobase => rfl

/-- Only a check of credentials looks at passwords. -/
theorem handle_blotted
    (uuid : String) {request : EndpointRequest} (hother : ¬request.IsCheck) :
    store.blotted.handle uuid request.blotted = (store.handle uuid request).map blotAnswer := by
  cases request with
  | authenticate auth => exact absurd trivial hother
  | getClusters =>
    have hsummaries :
        (store.clusters.toList.map Cluster.blotted).map (·.summary) =
          store.clusters.toList.map (·.summary) := by
      rw [List.map_map]
      rfl
    simp only [EndpointRequest.blotted, handle, blotted, Keyed.toList_map, hsummaries]
    rfl
  | getClusterInfo id | getSessions id => exact cluster_blotted_bind id fun _ => rfl
  | getInfobasesShort id =>
    refine cluster_blotted_bind id fun cluster => ?_
    have hsummaries :
        cluster.blotted.infobases.map InfobaseInfo.short =
          cluster.infobases.map InfobaseInfo.short := by
      rw [Cluster.blotted, List.map_map]
      rfl
    rw [hsummaries]
    rfl
  | getInfobaseSessions id infobaseId => exact handle_getInfobaseSessions_blotted uuid id infobaseId
  | createInfobase info => exact handle_createInfobase_blotted uuid info
  | updateInfobase patch => exact handle_updateInfobase_blotted uuid patch
  | unregisterInfobase info => exact handle_unregisterInfobase_blotted uuid info
  | terminateSession session => exact handle_terminateSession_blotted uuid session

end Store

/-! ## The service -/

def Service.blotted (service : Service) : Service :=
  { service with store := service.store.blotted }

def Situation.blotted (s : Situation) : Situation :=
  { s with service := s.service.blotted }

namespace Service

variable (uuids : Nat → String)

/-- The answer of a service without the contents of its passwords. -/
def blotAnswer (answer : Except Rejection EndpointResponse × Service) :
    Except Rejection EndpointResponse × Service :=
  (answer.1.map EndpointResponse.blotted, answer.2.blotted)

theorem usesUuid_blotted (request : EndpointRequest) :
    usesUuid request.blotted = usesUuid request := by
  cases request with
  | _ => rfl

theorem answer_blotted
    (service : Service) {request : EndpointRequest} (hother : ¬request.IsCheck) :
    service.blotted.answer uuids request.blotted = blotAnswer (service.answer uuids request) := by
  have hissued : service.blotted.issued = service.issued := rfl
  have hhandle := service.store.handle_blotted (uuids service.issued) hother
  simp only [answer, hissued, usesUuid_blotted]
  rw [show service.blotted.store = service.store.blotted from rfl, hhandle]
  cases service.store.handle (uuids service.issued) request with
  | error rejection => rfl
  | ok answered => rfl

/-- A check of credentials changes nothing, however it ends. -/
theorem answer_authenticate (service : Service) (auth : Authenticate) :
    service.answer uuids (.authenticate auth) =
      (match service.store.accounts auth.scope with
        | .error rejection => .error rejection
        | .ok accounts =>
          if Store.admits accounts auth.credentials then .ok .authenticated
          else .error (.wrongCredentials auth.scope),
        service) := by
  simp only [answer, Store.handle]
  cases service.store.accounts auth.scope with
  | error rejection => rfl
  | ok accounts =>
    simp only [bind, Except.bind]
    cases Store.admits accounts auth.credentials with
    | true => rfl
    | false => rfl

/-- How the answers to two requests compare that are the same but for their passwords, given by
services that are the same but for theirs: the answers are the same but for their passwords, or a
check of credentials is accepted by one service only. -/
inductive Compare (request : EndpointRequest) :
    Except Rejection EndpointResponse × Service →
      Except Rejection EndpointResponse × Service → Prop
  | alike {answer answer' : Except Rejection EndpointResponse × Service}
      (hsame : blotAnswer answer = blotAnswer answer') : Compare request answer answer'
  | onlyFirst (hcheck : request.IsCheck) (rejection : Rejection) (service service' : Service) :
      Compare request (.ok .authenticated, service) (.error rejection, service')
  | onlySecond (hcheck : request.IsCheck) (rejection : Rejection) (service service' : Service) :
      Compare request (.error rejection, service) (.ok .authenticated, service')

variable {service service' : Service} {request request' : EndpointRequest}

theorem compare_authenticate
    (hservice : service.blotted = service'.blotted) {auth auth' : Authenticate}
    (hauth : auth.blotted = auth'.blotted) :
    Compare (.authenticate auth) (service.answer uuids (.authenticate auth))
      (service'.answer uuids (.authenticate auth')) := by
  have hcheck : (EndpointRequest.authenticate auth).IsCheck := trivial
  have hscope : auth.scope = auth'.scope := by
    have hblotted := congrArg Authenticate.scope hauth
    exact hblotted
  have haccounts : service.store.accounts auth.scope = service'.store.accounts auth'.scope := by
    have hstore : service.store.blotted = service'.store.blotted :=
      congrArg Service.store hservice
    rw [← Store.accounts_blotted, hstore, Store.accounts_blotted, hscope]
  rw [answer_authenticate, answer_authenticate, haccounts, hscope]
  cases service'.store.accounts auth'.scope with
  | error rejection => exact .alike (congrArg (Prod.mk _) hservice)
  | ok accounts =>
    cases hfirst : Store.admits accounts auth.credentials with
    | true =>
      cases hsecond : Store.admits accounts auth'.credentials with
      | true =>
        simp only [hfirst, hsecond, if_true]
        exact .alike (congrArg (Prod.mk _) hservice)
      | false =>
        simp only [hfirst, hsecond, if_true, Bool.false_eq_true, if_false]
        exact .onlyFirst hcheck _ _ _
    | false =>
      cases hsecond : Store.admits accounts auth'.credentials with
      | true =>
        simp only [hfirst, hsecond, if_true, Bool.false_eq_true, if_false]
        exact .onlySecond hcheck _ _ _
      | false =>
        simp only [hfirst, hsecond, Bool.false_eq_true, if_false]
        exact .alike (congrArg (Prod.mk _) hservice)

theorem compare_answer
    (hservice : service.blotted = service'.blotted)
    (hrequest : request.blotted = request'.blotted) :
    Compare request (service.answer uuids request) (service'.answer uuids request') := by
  by_cases hcheck : request.IsCheck
  · cases request with
    | authenticate auth =>
      cases request' with
      | authenticate auth' =>
        exact compare_authenticate uuids hservice (EndpointRequest.authenticate.inj hrequest)
      | _ => cases hrequest
    | _ => exact hcheck.elim
  · have hcheck' : ¬request'.IsCheck := by
      rw [← EndpointRequest.isCheck_blotted, ← hrequest, EndpointRequest.isCheck_blotted]
      exact hcheck
    refine .alike ?_
    rw [← answer_blotted uuids service hcheck, ← answer_blotted uuids service' hcheck', hservice,
      hrequest]

end Service

end InfobaseGateway
