import InfobaseGateway.Proofs.Request.Validity
import InfobaseGateway.Proofs.Rpc.Plan

/-!
# Messages that convert

Which messages become requests, said about the numbers in them: every number of an enumeration is a
known one, and every point in time can be represented. An update that names a database system must
not leave it unspecified.
-/

namespace InfobaseGateway

/-! ## Numbers and times -/

/-- The numbers of the database systems, with 0 for none. -/
def dbmsNumbers : List Int32 :=
  [0, 1, 2, 3, 4]

/-- The numbers of the security levels, with 0 for unspecified. -/
def securityLevelNumbers : List Int32 :=
  [0, 1, 2, 3, 4]

/-- The numbers of the drop modes, with 0 for none. -/
def dropModeNumbers : List Int32 :=
  [0, 1, 2, 3]

/-- A point in time that is an instant: its second is in range, and its nanoseconds are those of one
second, or of two in the last second of a minute. -/
def Timestamp.Representable (t : Timestamp) : Prop :=
  Instant.range.1 ≤ t.seconds.toInt ∧ t.seconds.toInt ≤ Instant.range.2 ∧ 0 ≤ t.nanos.toInt ∧
    (t.nanos.toInt < Instant.second ∨
      t.nanos.toInt < 2 * Instant.second ∧ t.seconds.toInt.emod 60 = 59)

def Timestamp.parts (t : Timestamp) : Int × Int :=
  (t.seconds.toInt, t.nanos.toInt)

def Instant.parts (t : Instant) : Int × Int :=
  (t.seconds, t.nanos)

theorem exists_dbms_ofNumber_eq_ok_iff (field : String) (number : Int32) :
    (∃ kind, DbmsKind.ofNumber field number = .ok kind) ↔ number ∈ dbmsNumbers := by
  simp only [DbmsKind.ofNumber, dbmsNumbers, List.mem_cons, List.not_mem_nil, or_false]
  constructor
  · rintro ⟨kind, hkind⟩
    grind
  · rintro (rfl | rfl | rfl | rfl | rfl)
    all_goals simp

theorem dbms_ofNumber_eq_ok_none_iff (field : String) (number : Int32) :
    DbmsKind.ofNumber field number = .ok none ↔ number = 0 := by
  unfold DbmsKind.ofNumber
  constructor
  · intro hnone
    grind
  · intro hzero
    rw [if_pos hzero]

/-- A database system that is given must be a known one, and must be one. -/
theorem exists_dbms_ofOptionalNumber_eq_ok_iff (field : String) (number : Option Int32) :
    (∃ kind, DbmsKind.ofOptionalNumber field number = .ok kind) ↔
      ∀ n ∈ number, n ∈ dbmsNumbers ∧ n ≠ 0 := by
  cases number with
  | none => simp [DbmsKind.ofOptionalNumber]
  | some n =>
    have hknown := exists_dbms_ofNumber_eq_ok_iff field n
    have hzero := dbms_ofNumber_eq_ok_none_iff field n
    simp only [Option.mem_some_iff, forall_eq', ← hknown, ne_eq, ← hzero,
      DbmsKind.ofOptionalNumber]
    cases DbmsKind.ofNumber field n with
    | error error => simp [bind, Except.bind]
    | ok kind =>
      cases kind with
      | none => simp [bind, Except.bind]
      | some kind => simp [bind, Except.bind]

theorem exists_securityLevelOf_eq_ok_iff (field : String) (number : Option Int32) :
    (∃ level, securityLevelOf field number = .ok level) ↔
      ∀ n ∈ number, n ∈ securityLevelNumbers := by
  cases number with
  | none => simp [securityLevelOf]
  | some n =>
    simp only [securityLevelOf, securityLevelNumbers, Option.mem_some_iff, forall_eq',
      List.mem_cons, List.not_mem_nil, or_false]
    constructor
    · rintro ⟨level, hlevel⟩
      grind
    · rintro (rfl | rfl | rfl | rfl | rfl)
      all_goals simp

theorem exists_dropMode_ofNumber_eq_ok_iff (field : String) (number : Int32) :
    (∃ mode, DropMode.ofNumber field number = .ok mode) ↔ number ∈ dropModeNumbers := by
  simp only [DropMode.ofNumber, dropModeNumbers, List.mem_cons, List.not_mem_nil, or_false]
  constructor
  · rintro ⟨mode, hmode⟩
    grind
  · rintro (rfl | rfl | rfl | rfl)
    all_goals simp

theorem exists_instantOf_eq_ok_iff (field : String) (time : Option Timestamp) :
    (∃ instant, instantOf field time = .ok instant) ↔ ∀ t ∈ time, t.Representable := by
  cases time with
  | none => simp [instantOf]
  | some t =>
    simp only [instantOf, Instant.ofParts?, Option.mem_some_iff, forall_eq']
    by_cases hrepresentable : t.Representable
    · have hparts := hrepresentable
      unfold Timestamp.Representable at hparts
      simp [hrepresentable, hparts]
    · have hparts := hrepresentable
      unfold Timestamp.Representable at hparts
      simp only [if_neg hparts, hrepresentable, iff_false]
      rintro ⟨instant, hinstant⟩
      cases hinstant

/-! ## Messages -/

namespace Rpc

/-- A message whose numbers and times all have a meaning. -/
def Converts : (rpc : Rpc) → rpc.Request → Prop
  | createInfobase, message =>
    message.dbms ∈ dbmsNumbers ∧ ∀ level ∈ message.securityLevel, level ∈ securityLevelNumbers
  | updateInfobase, message =>
    (∀ dbms ∈ message.dbms, dbms ∈ dbmsNumbers ∧ dbms ≠ 0) ∧
      (∀ level ∈ message.securityLevel, level ∈ securityLevelNumbers) ∧
      (∀ start ∈ message.deniedFrom, start.Representable) ∧
      ∀ stop ∈ message.deniedTo, stop.Representable
  | dropInfobase, message => message.dropMode ∈ dropModeNumbers
  | lockInfobase, message =>
    (∀ start ∈ message.deniedFrom, start.Representable) ∧
      ∀ stop ∈ message.deniedTo, stop.Representable
  | _, _ => True

theorem exists_map_eq_ok_iff {ε α β : Type} (x : Except ε α) (f : α → β) :
    (∃ b, x.map f = .ok b) ↔ ∃ a, x = .ok a := by
  cases x with
  | error error => simp [Except.map]
  | ok a => simp [Except.map]

/-- Two conversions in a row. -/
theorem exists_bind_eq_ok_iff {ε α β : Type}
    (x : Except ε α) (f : α → Except ε β) {p : Prop}
    (hrest : ∀ a, (∃ b, f a = .ok b) ↔ p) :
    (∃ b, (x >>= f) = .ok b) ↔ (∃ a, x = .ok a) ∧ p := by
  simp only [except_bind_eq_ok_iff]
  constructor
  · rintro ⟨b, a, ha, hb⟩
    exact ⟨⟨a, ha⟩, (hrest a).mp ⟨b, hb⟩⟩
  · rintro ⟨⟨a, ha⟩, hp⟩
    obtain ⟨b, hb⟩ := (hrest a).mpr hp
    exact ⟨b, a, ha, hb⟩

/-- A call has a plan exactly if its message converts. -/
theorem exists_plan_eq_ok_iff (rpc : Rpc) (message : rpc.Request) :
    (∃ plan, rpc.plan message = .ok plan) ↔ rpc.Converts message := by
  cases rpc with
  | createInfobase =>
    rw [plan, exists_map_eq_ok_iff, CreateInfobase.ofMessage]
    rw [exists_bind_eq_ok_iff _ _ fun dbms =>
      exists_bind_eq_ok_iff _ _ fun level => iff_true_intro ⟨_, rfl⟩]
    rw [exists_dbms_ofNumber_eq_ok_iff, exists_securityLevelOf_eq_ok_iff, and_true]
    exact Iff.rfl
  | updateInfobase =>
    rw [plan, exists_map_eq_ok_iff, UpdateInfobase.ofMessage]
    rw [exists_bind_eq_ok_iff _ _ fun dbms =>
      exists_bind_eq_ok_iff _ _ fun level =>
        exists_bind_eq_ok_iff _ _ fun start =>
          exists_bind_eq_ok_iff _ _ fun stop => iff_true_intro ⟨_, rfl⟩]
    rw [exists_dbms_ofOptionalNumber_eq_ok_iff, exists_securityLevelOf_eq_ok_iff,
      exists_instantOf_eq_ok_iff, exists_instantOf_eq_ok_iff, and_true]
    exact Iff.rfl
  | dropInfobase =>
    rw [plan, exists_map_eq_ok_iff, DropInfobase.ofMessage]
    rw [exists_bind_eq_ok_iff _ _ fun mode => iff_true_intro ⟨_, rfl⟩]
    rw [exists_dropMode_ofNumber_eq_ok_iff, and_true]
    exact Iff.rfl
  | lockInfobase =>
    rw [plan, exists_map_eq_ok_iff, LockInfobase.ofMessage]
    rw [exists_bind_eq_ok_iff _ _ fun start =>
      exists_bind_eq_ok_iff _ _ fun stop => iff_true_intro ⟨_, rfl⟩]
    rw [exists_instantOf_eq_ok_iff, exists_instantOf_eq_ok_iff, and_true]
    exact Iff.rfl
  | _ => exact iff_of_true ⟨_, rfl⟩ trivial

end Rpc

end InfobaseGateway
