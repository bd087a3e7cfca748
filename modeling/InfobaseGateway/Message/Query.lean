import InfobaseGateway.Message.Nested

/-!
# Messages of queries and session control

Requests and responses for authentication, for the listings of clusters, sessions and infobases, and
for ending a session.
-/

namespace InfobaseGateway

/-- Asks to end a session. -/
structure TerminateSessionRequest where
  clusterId : String
  sessionId : String
  deriving DecidableEq

instance : Message TerminateSessionRequest where
  schema := ⟨"TerminateSessionRequest",
    [⟨"cluster_id", 1, .plain .text, .cluster⟩, ⟨"session_id", 2, .plain .text, .ordinary⟩]⟩
  toRecord message :=
    (message.clusterId, message.sessionId, ())
  ofRecord := fun
    | (clusterId, sessionId, ()) =>
      ⟨clusterId, sessionId⟩
  ofRecord_toRecord _ := rfl
  toRecord_ofRecord _ := rfl

/-- Confirms the end of a session. -/
structure TerminateSessionResponse where
  deriving DecidableEq

instance : Message TerminateSessionResponse where
  schema := ⟨"TerminateSessionResponse", []⟩
  toRecord _ := ()
  ofRecord _ := ⟨⟩
  ofRecord_toRecord _ := rfl
  toRecord_ofRecord _ := rfl

/-- Credentials for the central agent. -/
structure AuthenticateAgentRequest where
  user : String
  password : String
  deriving DecidableEq

instance : Message AuthenticateAgentRequest where
  schema := ⟨"AuthenticateAgentRequest",
    [⟨"user", 1, .plain .text, .user⟩, ⟨"password", 2, .plain .text, .credential⟩]⟩
  toRecord message :=
    (message.user, message.password, ())
  ofRecord := fun
    | (user, password, ()) =>
      ⟨user, password⟩
  ofRecord_toRecord _ := rfl
  toRecord_ofRecord _ := rfl

/-- Credentials for a cluster. -/
structure ClusterAuthenticateRequest where
  clusterId : String
  user : String
  password : String
  deriving DecidableEq

instance : Message ClusterAuthenticateRequest where
  schema := ⟨"ClusterAuthenticateRequest",
    [⟨"cluster_id", 1, .plain .text, .cluster⟩, ⟨"user", 2, .plain .text, .user⟩,
      ⟨"password", 3, .plain .text, .credential⟩]⟩
  toRecord message :=
    (message.clusterId, message.user, message.password, ())
  ofRecord := fun
    | (clusterId, user, password, ()) =>
      ⟨clusterId, user, password⟩
  ofRecord_toRecord _ := rfl
  toRecord_ofRecord _ := rfl

/-- Credentials for the infobases of a cluster. -/
structure AuthenticateInfobaseRequest where
  clusterId : String
  user : String
  password : String
  deriving DecidableEq

instance : Message AuthenticateInfobaseRequest where
  schema := ⟨"AuthenticateInfobaseRequest",
    [⟨"cluster_id", 1, .plain .text, .cluster⟩, ⟨"user", 2, .plain .text, .user⟩,
      ⟨"password", 3, .plain .text, .credential⟩]⟩
  toRecord message :=
    (message.clusterId, message.user, message.password, ())
  ofRecord := fun
    | (clusterId, user, password, ()) =>
      ⟨clusterId, user, password⟩
  ofRecord_toRecord _ := rfl
  toRecord_ofRecord _ := rfl

/-- Confirms credentials. -/
structure AuthenticateResponse where
  deriving DecidableEq

instance : Message AuthenticateResponse where
  schema := ⟨"AuthenticateResponse", []⟩
  toRecord _ := ()
  ofRecord _ := ⟨⟩
  ofRecord_toRecord _ := rfl
  toRecord_ofRecord _ := rfl

/-- Asks for all clusters. -/
structure GetClustersRequest where
  deriving DecidableEq

instance : Message GetClustersRequest where
  schema := ⟨"GetClustersRequest", []⟩
  toRecord _ := ()
  ofRecord _ := ⟨⟩
  ofRecord_toRecord _ := rfl
  toRecord_ofRecord _ := rfl

/-- All clusters. -/
structure GetClustersResponse where
  clusters : List ClusterInfo
  deriving DecidableEq

instance : Message GetClustersResponse where
  schema := ⟨"GetClustersResponse",
    [⟨"clusters", 1, .repeated ClusterInfo.layout, .ordinary⟩]⟩
  toRecord message :=
    (message.clusters.map ClusterInfo.toSlots, ())
  ofRecord := fun
    | (clusters, ()) =>
      ⟨clusters.map ClusterInfo.ofSlots⟩
  ofRecord_toRecord message := by cases message; simp [Function.comp_def]
  toRecord_ofRecord record := by simp [Function.comp_def]

/-- Asks for one cluster. -/
structure GetClusterInfoRequest where
  clusterId : String
  deriving DecidableEq

instance : Message GetClusterInfoRequest where
  schema := ⟨"GetClusterInfoRequest",
    [⟨"cluster_id", 1, .plain .text, .cluster⟩]⟩
  toRecord message :=
    (message.clusterId, ())
  ofRecord := fun
    | (clusterId, ()) =>
      ⟨clusterId⟩
  ofRecord_toRecord _ := rfl
  toRecord_ofRecord _ := rfl

/-- One cluster. -/
structure GetClusterInfoResponse where
  cluster : Option ClusterInfo
  deriving DecidableEq

instance : Message GetClusterInfoResponse where
  schema := ⟨"GetClusterInfoResponse",
    [⟨"cluster", 1, .nested ClusterInfo.layout, .ordinary⟩]⟩
  toRecord message :=
    (message.cluster.map ClusterInfo.toSlots, ())
  ofRecord := fun
    | (cluster, ()) =>
      ⟨cluster.map ClusterInfo.ofSlots⟩
  ofRecord_toRecord message := by cases message; simp [Function.comp_def]
  toRecord_ofRecord record := by simp [Function.comp_def]

/-- Asks for the sessions of a cluster. -/
structure GetSessionsRequest where
  clusterId : String
  deriving DecidableEq

instance : Message GetSessionsRequest where
  schema := ⟨"GetSessionsRequest",
    [⟨"cluster_id", 1, .plain .text, .cluster⟩]⟩
  toRecord message :=
    (message.clusterId, ())
  ofRecord := fun
    | (clusterId, ()) =>
      ⟨clusterId⟩
  ofRecord_toRecord _ := rfl
  toRecord_ofRecord _ := rfl

/-- The sessions of a cluster. -/
structure GetSessionsResponse where
  sessions : List SessionEntry
  deriving DecidableEq

instance : Message GetSessionsResponse where
  schema := ⟨"GetSessionsResponse",
    [⟨"sessions", 1, .repeated SessionEntry.layout, .ordinary⟩]⟩
  toRecord message :=
    (message.sessions.map SessionEntry.toSlots, ())
  ofRecord := fun
    | (sessions, ()) =>
      ⟨sessions.map SessionEntry.ofSlots⟩
  ofRecord_toRecord message := by cases message; simp [Function.comp_def]
  toRecord_ofRecord record := by simp [Function.comp_def]

/-- Asks for the infobases of a cluster. -/
structure GetInfobasesShortRequest where
  clusterId : String
  deriving DecidableEq

instance : Message GetInfobasesShortRequest where
  schema := ⟨"GetInfobasesShortRequest",
    [⟨"cluster_id", 1, .plain .text, .cluster⟩]⟩
  toRecord message :=
    (message.clusterId, ())
  ofRecord := fun
    | (clusterId, ()) =>
      ⟨clusterId⟩
  ofRecord_toRecord _ := rfl
  toRecord_ofRecord _ := rfl

/-- The infobases of a cluster. -/
structure GetInfobasesShortResponse where
  infobases : List InfobaseShort
  deriving DecidableEq

instance : Message GetInfobasesShortResponse where
  schema := ⟨"GetInfobasesShortResponse",
    [⟨"infobases", 1, .repeated InfobaseShort.layout, .ordinary⟩]⟩
  toRecord message :=
    (message.infobases.map InfobaseShort.toSlots, ())
  ofRecord := fun
    | (infobases, ()) =>
      ⟨infobases.map InfobaseShort.ofSlots⟩
  ofRecord_toRecord message := by cases message; simp [Function.comp_def]
  toRecord_ofRecord record := by simp [Function.comp_def]

/-- Asks for the sessions of an infobase. -/
structure GetInfobaseSessionsRequest where
  clusterId : String
  infobaseId : String
  deriving DecidableEq

instance : Message GetInfobaseSessionsRequest where
  schema := ⟨"GetInfobaseSessionsRequest",
    [⟨"cluster_id", 1, .plain .text, .cluster⟩, ⟨"infobase_id", 2, .plain .text, .infobase⟩]⟩
  toRecord message :=
    (message.clusterId, message.infobaseId, ())
  ofRecord := fun
    | (clusterId, infobaseId, ()) =>
      ⟨clusterId, infobaseId⟩
  ofRecord_toRecord _ := rfl
  toRecord_ofRecord _ := rfl

/-- The sessions of an infobase. -/
structure GetInfobaseSessionsResponse where
  sessions : List SessionEntry
  deriving DecidableEq

instance : Message GetInfobaseSessionsResponse where
  schema := ⟨"GetInfobaseSessionsResponse",
    [⟨"sessions", 1, .repeated SessionEntry.layout, .ordinary⟩]⟩
  toRecord message :=
    (message.sessions.map SessionEntry.toSlots, ())
  ofRecord := fun
    | (sessions, ()) =>
      ⟨sessions.map SessionEntry.ofSlots⟩
  ofRecord_toRecord message := by cases message; simp [Function.comp_def]
  toRecord_ofRecord record := by simp [Function.comp_def]

end InfobaseGateway
