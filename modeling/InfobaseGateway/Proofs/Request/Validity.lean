import InfobaseGateway.Operation.Creation
import InfobaseGateway.Operation.Query
import InfobaseGateway.Operation.Removal
import InfobaseGateway.Operation.Session
import InfobaseGateway.Proofs.Text.Expression

/-!
# Valid requests

What the checks of a request ask for, stated about the request itself. Each check is shown to pass
exactly when its condition holds, so that the theorems about operations can speak of valid requests
and leave the order of the checks aside.
-/

namespace InfobaseGateway

/-! ## Conditions on single fields -/

/-- A text that holds more than white space. -/
def Filled (text : String) : Prop :=
  ∃ c ∈ text.toList, Text.isWhite c = false

/-- A name that an infobase can be created with. -/
structure IsName (name : String) : Prop where
  nonempty : name ≠ ""
  short : name.length ≤ nameLimit
  alphabet : ∀ c ∈ name.toList, isNameChar c = true

/-- A lock window has both ends or none. It ends after it starts and not before `now`. -/
def IsWindow (now : Instant) : Option Instant → Option Instant → Prop
  | none, none => True
  | some start, some stop => start.before stop = true ∧ stop.before now = false
  | _, _ => False

theorem isBlank_eq_false_iff (text : String) :
    Text.isBlank text = false ↔ Filled text := by
  simp [Text.isBlank, Filled]

theorem requireText_eq_ok_iff (field text : String) (u : Unit) :
    requireText field text = .ok u ↔ Filled text := by
  rw [← isBlank_eq_false_iff, requireText]
  cases Text.isBlank text with
  | true => simp
  | false => simp

/-- The pattern of names asks for a text of the name alphabet that is not empty. -/
theorem namePattern_isMatch_iff (name : String) :
    namePattern.isMatch name = true ↔ name ≠ "" ∧ ∀ c ∈ name.toList, isNameChar c = true :=
  Text.Expression.isMatch_anchored_iff name

theorem checkName_eq_ok_iff (name : String) (u : Unit) :
    checkName name = .ok u ↔ IsName name := by
  unfold checkName
  constructor
  · intro h
    split at h
    · cases h
    · next hnonempty =>
      split at h
      · cases h
      · next hshort =>
        split at h
        · next hmatch =>
          have halphabet := ((namePattern_isMatch_iff name).mp hmatch).2
          exact ⟨hnonempty, Nat.not_lt.mp hshort, halphabet⟩
        · cases h
  · rintro ⟨hnonempty, hshort, halphabet⟩
    have hmatch := (namePattern_isMatch_iff name).mpr ⟨hnonempty, halphabet⟩
    rw [if_neg hnonempty, if_neg (Nat.not_lt.mpr hshort), if_pos hmatch]

theorem requireDbms_eq_ok_iff (dbms : Option DbmsKind) (kind : DbmsKind) :
    requireDbms dbms = .ok kind ↔ dbms = some kind := by
  cases dbms with
  | none => simp [requireDbms]
  | some dbms => simp [requireDbms]

theorem checkServer_eq_ok_iff (dbms : DbmsKind) (server database : String) (u : Unit) :
    checkServer dbms server database = .ok u ↔ Filled server ∧ Filled database := by
  rw [← isBlank_eq_false_iff, ← isBlank_eq_false_iff, checkServer]
  cases Text.isBlank server with
  | true => simp
  | false =>
    cases Text.isBlank database with
    | true => simp
    | false => simp

theorem requireDropMode_eq_ok_iff (dropMode : Option DropMode) (mode : DropMode) :
    requireDropMode dropMode = .ok mode ↔ dropMode = some mode := by
  cases dropMode with
  | none => simp [requireDropMode]
  | some dropMode => simp [requireDropMode]

/-- A window that passes leaves at most the warning about its length. -/
theorem exists_checkWindow_eq_ok_iff (start stop : Option Instant) (now : Instant) :
    (∃ warnings, checkWindow start stop now = .ok warnings) ↔ IsWindow now start stop := by
  cases start with
  | none =>
    cases stop with
    | none => simp [checkWindow, IsWindow]
    | some stop => simp [checkWindow, IsWindow]
  | some start =>
    cases stop with
    | none => simp [checkWindow, IsWindow]
    | some stop =>
      simp only [checkWindow, IsWindow]
      cases start.before stop with
      | false => simp
      | true =>
        cases stop.before now with
        | true => simp
        | false =>
          by_cases hshort : stop.nanosSince start < shortWindow
          · simp [hshort]
          · simp [hshort]

/-! ## Conditions on requests -/

/-- A check without a result passes if it comes to no failure. -/
theorem exists_eq_ok_iff {ε : Type} {check : Except ε Unit} {p : Prop}
    (h : ∀ u, check = .ok u ↔ p) : (∃ u, check = .ok u) ↔ p := by
  constructor
  · rintro ⟨u, hu⟩
    exact (h u).mp hu
  · intro hp
    exact ⟨(), (h ()).mpr hp⟩

/-- A sequence of checks passes if each of them passes. -/
theorem except_bind_eq_ok_iff {ε α β : Type} (x : Except ε α) (f : α → Except ε β) (b : β) :
    (x >>= f) = .ok b ↔ ∃ a, x = .ok a ∧ f a = .ok b := by
  cases x with
  | error error => simp [bind, Except.bind]
  | ok a => simp [bind, Except.bind]

theorem validateIds_eq_ok_iff (clusterId infobaseId : String) (u : Unit) :
    validateIds clusterId infobaseId = .ok u ↔ Filled clusterId ∧ Filled infobaseId := by
  simp [validateIds, except_bind_eq_ok_iff, requireText_eq_ok_iff]

namespace CreateInfobase

/-- A creation names its cluster, its infobase, a database system, a server and a database. -/
structure Valid (request : CreateInfobase) : Prop where
  cluster : Filled request.clusterId
  name : IsName request.name
  dbms : request.dbms ≠ none
  server : Filled request.dbServer
  database : Filled request.dbName

theorem exists_validate_eq_ok_iff (request : CreateInfobase) :
    (∃ dbms, request.validate = .ok dbms) ↔ request.Valid := by
  have hcheck (dbms : DbmsKind) :
      request.validate = .ok dbms ↔
        Filled request.clusterId ∧ IsName request.name ∧ request.dbms = some dbms ∧
          Filled request.dbServer ∧ Filled request.dbName := by
    simp only [validate, except_bind_eq_ok_iff, requireText_eq_ok_iff, checkName_eq_ok_iff,
      requireDbms_eq_ok_iff, checkServer_eq_ok_iff]
    constructor
    · rintro ⟨_, hcluster, _, hname, kind, hdbms, _, ⟨hserver, hdatabase⟩, hkind⟩
      cases hkind
      exact ⟨hcluster, hname, hdbms, hserver, hdatabase⟩
    · rintro ⟨hcluster, hname, hdbms, hserver, hdatabase⟩
      exact ⟨(), hcluster, (), hname, dbms, hdbms, (), ⟨hserver, hdatabase⟩, rfl⟩
  constructor
  · rintro ⟨dbms, hvalidate⟩
    obtain ⟨hcluster, hname, hdbms, hserver, hdatabase⟩ := (hcheck dbms).mp hvalidate
    exact ⟨hcluster, hname, by simp [hdbms], hserver, hdatabase⟩
  · rintro ⟨hcluster, hname, hdbms, hserver, hdatabase⟩
    obtain ⟨dbms, hsome⟩ := Option.ne_none_iff_exists'.mp hdbms
    exact ⟨dbms, (hcheck dbms).mpr ⟨hcluster, hname, hsome, hserver, hdatabase⟩⟩

end CreateInfobase

namespace DropInfobase

/-- A removal names its infobase and a mode. -/
structure Valid (request : DropInfobase) : Prop where
  cluster : Filled request.clusterId
  infobase : Filled request.infobaseId
  mode : request.dropMode ≠ none

theorem validate_eq_ok_iff (request : DropInfobase) (mode : DropMode) :
    request.validate = .ok mode ↔
      Filled request.clusterId ∧ Filled request.infobaseId ∧ request.dropMode = some mode := by
  simp [validate, except_bind_eq_ok_iff, validateIds_eq_ok_iff, requireDropMode_eq_ok_iff,
    and_assoc]

theorem exists_validate_eq_ok_iff (request : DropInfobase) :
    (∃ mode, request.validate = .ok mode) ↔ request.Valid := by
  constructor
  · rintro ⟨mode, hmode⟩
    obtain ⟨hcluster, hinfobase, hsome⟩ := (request.validate_eq_ok_iff mode).mp hmode
    exact ⟨hcluster, hinfobase, by simp [hsome]⟩
  · rintro ⟨hcluster, hinfobase, hmode⟩
    obtain ⟨mode, hsome⟩ := Option.ne_none_iff_exists'.mp hmode
    exact ⟨mode, (request.validate_eq_ok_iff mode).mpr ⟨hcluster, hinfobase, hsome⟩⟩

end DropInfobase

theorem TerminateSession.validate_eq_ok_iff (request : TerminateSession) (u : Unit) :
    request.validate = .ok u ↔ Filled request.clusterId ∧ Filled request.sessionId := by
  simp [validate, except_bind_eq_ok_iff, requireText_eq_ok_iff]

namespace Authenticate

/-- A check of credentials names its cluster, if its scope has one, and a user. -/
structure Valid (request : Authenticate) : Prop where
  cluster : ∀ clusterId ∈ request.scope.clusterId?, Filled clusterId
  user : Filled (request.credentials.user.getD "")

theorem validate_eq_ok_iff (request : Authenticate) (u : Unit) :
    request.validate = .ok u ↔ request.Valid := by
  have hcheck :
      request.validate = .ok u ↔
        (∀ clusterId ∈ request.scope.clusterId?, Filled clusterId) ∧
          Filled (request.credentials.user.getD "") := by
    unfold validate
    cases request.scope.clusterId? with
    | none => simp [requireText_eq_ok_iff]
    | some clusterId => simp [except_bind_eq_ok_iff, requireText_eq_ok_iff]
  rw [hcheck]
  exact ⟨fun h => ⟨h.1, h.2⟩, fun h => ⟨h.cluster, h.user⟩⟩

end Authenticate

end InfobaseGateway
