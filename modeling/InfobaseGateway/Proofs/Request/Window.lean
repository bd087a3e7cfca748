import InfobaseGateway.Proofs.Request.Convertible
import Mathlib.Data.Nat.Find
import Mathlib.Data.Prod.Lex

/-!
# Lock windows

What a lock asks of its window, said about the two ends in the raw form in which a message gives
them. The conversion looks at the range of each end, and the check compares the ends with each other
and then with the clock. Together they are rules with an order: a window that is refused is refused
by the first rule that it breaks.
-/

namespace InfobaseGateway

/-! ## Points in time -/

/-- Points in time are compared by their seconds, and within a second by their nanoseconds. -/
def Timestamp.rank (t : Timestamp) : Int ×ₗ Int :=
  toLex t.parts

def Instant.rank (t : Instant) : Int ×ₗ Int :=
  toLex t.parts

/-- The instant that a point in time is, if it is one. -/
def Timestamp.instant (t : Timestamp) : Instant :=
  ⟨t.seconds.toInt, t.nanos.toInt.toNat⟩

theorem Timestamp.Representable.parts_instant {t : Timestamp} (h : t.Representable) :
    t.instant.parts = t.parts := by
  have hnanos : ((t.nanos.toInt.toNat : Nat) : Int) = t.nanos.toInt := Int.toNat_of_nonneg h.2.2.1
  exact congrArg (fun nanos => (t.seconds.toInt, nanos)) hnanos

theorem Timestamp.Representable.rank_instant {t : Timestamp} (h : t.Representable) :
    t.instant.rank = t.rank :=
  congrArg toLex h.parts_instant

theorem instantOf_eq_ok
    (field : String) {time : Option Timestamp} (h : ∀ t ∈ time, t.Representable) :
    instantOf field time = .ok (time.map Timestamp.instant) := by
  cases time with
  | none => rfl
  | some t =>
    have hparts : Instant.ofParts? t.seconds.toInt t.nanos.toInt = some t.instant :=
      if_pos (h t rfl)
    simp only [instantOf, hparts]
    rfl

theorem instantOf_eq_error
    (field : String) {t : Timestamp} (h : ¬t.Representable) :
    instantOf field (some t) = .error (.timeOutOfRange field) := by
  have hparts : Instant.ofParts? t.seconds.toInt t.nanos.toInt = none := if_neg h
  simp only [instantOf, hparts]

namespace Instant

theorem before_eq_true_iff (a b : Instant) : a.before b = true ↔ a.rank < b.rank := by
  simp only [before, rank, parts, Bool.or_eq_true, Bool.and_eq_true, decide_eq_true_eq, beq_iff_eq,
    Prod.Lex.toLex_lt_toLex, Int.ofNat_lt]

/-- No leap second lies between two instants that are not leap seconds themselves. -/
theorem nanosSince_of_nanos_lt
    {a b : Instant} (ha : a.nanos < second) (hb : b.nanos < second) :
    a.nanosSince b = (a.seconds - b.seconds) * second + (a.nanos - b.nanos : Int) := by
  have hleap : leapBetween a b = 0 := by
    rw [leapBetween, if_neg (by omega), if_neg (by omega)]
  rw [nanosSince, hleap, Int.add_zero]

end Instant

namespace Timestamp.Representable

variable {a b : Timestamp}

theorem instant_before_instant_iff (ha : a.Representable) (hb : b.Representable) :
    a.instant.before b.instant = true ↔ a.rank < b.rank := by
  rw [Instant.before_eq_true_iff, ha.rank_instant, hb.rank_instant]

theorem instant_before_iff (ha : a.Representable) (now : Instant) :
    a.instant.before now = true ↔ a.rank < now.rank := by
  rw [Instant.before_eq_true_iff, ha.rank_instant]

end Timestamp.Representable

/-! ## The rules for a window -/

/-- What can be wrong with a lock window, in the order in which it is looked at. -/
inductive WindowRule
  | startInRange
  | stopInRange
  | bothOrNeither
  | stopAfterStart
  | stopNotPast

namespace WindowRule

/-- The position of a rule in the order of the checks. -/
def place : WindowRule → Nat
  | startInRange => 0
  | stopInRange => 1
  | bothOrNeither => 2
  | stopAfterStart => 3
  | stopNotPast => 4

/-- What a caller who breaks the rule is told. -/
def message : WindowRule → String
  | startInRange => "denied_from: timestamp is out of range"
  | stopInRange => "denied_to: timestamp is out of range"
  | bothOrNeither => "denied_from and denied_to must be set together"
  | stopAfterStart => "denied_to must be after denied_from"
  | stopNotPast => "denied_to must not be in the past"

/-- What a rule asks of the ends that are there. -/
def Holds (now : Instant) (start stop : Option Timestamp) : WindowRule → Prop
  | startInRange => ∀ a ∈ start, a.Representable
  | stopInRange => ∀ b ∈ stop, b.Representable
  | bothOrNeither => start.isSome = stop.isSome
  | stopAfterStart => ∀ a ∈ start, ∀ b ∈ stop, a.rank < b.rank
  | stopNotPast => ∀ b ∈ stop, now.rank ≤ b.rank

/-- The rule is broken, and all rules before it hold. -/
def IsFirstBroken (now : Instant) (start stop : Option Timestamp) (rule : WindowRule) : Prop :=
  ¬rule.Holds now start stop ∧
    ∀ earlier : WindowRule, earlier.place < rule.place → earlier.Holds now start stop

theorem place_injective : Function.Injective place := by
  intro rule other hplace
  cases rule with
  | _ =>
    cases other with
    | _ => first | rfl | cases hplace

theorem IsFirstBroken.unique
    {now : Instant} {start stop : Option Timestamp} {rule other : WindowRule}
    (hrule : rule.IsFirstBroken now start stop) (hother : other.IsFirstBroken now start stop) :
    rule = other := by
  rcases Nat.lt_trichotomy rule.place other.place with hbefore | hsame | hafter
  · exact absurd (hother.2 rule hbefore) hrule.1
  · exact place_injective hsame
  · exact absurd (hrule.2 other hafter) hother.1

end WindowRule

/-- A window that a lock may have: none, or one that ends after it starts and not before `now`. -/
def IsLockWindow (now : Instant) : Option Timestamp → Option Timestamp → Prop
  | none, none => True
  | some a, some b =>
    a.Representable ∧ b.Representable ∧ a.rank < b.rank ∧ now.rank ≤ b.rank
  | _, _ => False

section Rules

variable {now : Instant} {start stop : Option Timestamp}

theorem IsLockWindow.holds (h : IsLockWindow now start stop) (rule : WindowRule) :
    rule.Holds now start stop := by
  cases start with
  | none =>
    cases stop with
    | none => cases rule with
      | bothOrNeither => rfl
      | _ => nofun
    | some b => exact h.elim
  | some a =>
    cases stop with
    | none => exact h.elim
    | some b =>
      obtain ⟨hstart, hstop, hafter, hpast⟩ := h
      cases rule with
      | startInRange => rintro _ ⟨⟩; exact hstart
      | stopInRange => rintro _ ⟨⟩; exact hstop
      | bothOrNeither => rfl
      | stopAfterStart => rintro _ ⟨⟩ _ ⟨⟩; exact hafter
      | stopNotPast => rintro _ ⟨⟩; exact hpast

theorem isLockWindow_of_holds (h : ∀ rule : WindowRule, rule.Holds now start stop) :
    IsLockWindow now start stop := by
  have hboth : start.isSome = stop.isSome := h .bothOrNeither
  cases start with
  | none =>
    cases stop with
    | none => trivial
    | some b => cases hboth
  | some a =>
    cases stop with
    | none => cases hboth
    | some b =>
      exact ⟨h .startInRange a rfl, h .stopInRange b rfl, h .stopAfterStart a rfl b rfl,
        h .stopNotPast b rfl⟩

/-- A window that a lock may not have breaks some rule first. -/
theorem exists_isFirstBroken (h : ¬IsLockWindow now start stop) :
    ∃ rule : WindowRule, rule.IsFirstBroken now start stop := by
  classical
  have hbroken : ∃ place, ∃ rule : WindowRule, rule.place = place ∧ ¬rule.Holds now start stop := by
    by_contra hnone
    refine h (isLockWindow_of_holds fun rule => ?_)
    by_contra hrule
    exact hnone ⟨rule.place, rule, rfl, hrule⟩
  obtain ⟨rule, hplace, hrule⟩ := Nat.find_spec hbroken
  refine ⟨rule, hrule, fun earlier hearlier => ?_⟩
  by_contra hbad
  rw [hplace] at hearlier
  exact Nat.find_min hbroken hearlier ⟨earlier, rfl, hbad⟩

end Rules

/-! ## The check of a window -/

section Check

variable {now : Instant} {start stop : Option Timestamp}

/-- The check of two ends that are instants. -/
theorem checkWindow_eq_ok (h : IsLockWindow now start stop) :
    ∃ warnings,
      checkWindow (start.map Timestamp.instant) (stop.map Timestamp.instant) now = .ok warnings ∧
        (∀ a ∈ start, ∀ b ∈ stop, b.instant.nanosSince a.instant < shortWindow →
          warnings = [shortWindowEvent a.instant b.instant]) ∧
        ((¬∃ a ∈ start, ∃ b ∈ stop, b.instant.nanosSince a.instant < shortWindow) →
          warnings = []) := by
  cases start with
  | none =>
    cases stop with
    | none => exact ⟨[], rfl, nofun, fun _ => rfl⟩
    | some b => exact h.elim
  | some a =>
    cases stop with
    | none => exact h.elim
    | some b =>
      obtain ⟨hstart, hstop, hafter, hpast⟩ := h
      have hforward : a.instant.before b.instant = true :=
        (hstart.instant_before_instant_iff hstop).mpr hafter
      have hahead : b.instant.before now = false := by
        rw [← Bool.not_eq_true, hstop.instant_before_iff]
        exact not_lt.mpr hpast
      by_cases hshort : b.instant.nanosSince a.instant < shortWindow
      · refine ⟨[shortWindowEvent a.instant b.instant], ?_, ?_, fun hlong => ?_⟩
        · simp [checkWindow, hforward, hahead, hshort]
        · rintro _ ⟨⟩ _ ⟨⟩ _
          rfl
        · exact absurd ⟨a, rfl, b, rfl, hshort⟩ hlong
      · refine ⟨[], ?_, ?_, fun _ => rfl⟩
        · simp [checkWindow, hforward, hahead, hshort]
        · rintro _ ⟨⟩ _ ⟨⟩ hbelow
          exact absurd hbelow hshort

/-- A window of two instants that is not a lock window is refused by the first rule that it breaks,
and that is none of the two about the range. -/
theorem checkWindow_eq_error
    {rule : WindowRule} (hrule : rule.IsFirstBroken now start stop)
    (hstart : ∀ a ∈ start, a.Representable) (hstop : ∀ b ∈ stop, b.Representable) :
    ∃ error,
      checkWindow (start.map Timestamp.instant) (stop.map Timestamp.instant) now = .error error ∧
        error.message = rule.message := by
  obtain ⟨hbroken, hearlier⟩ := hrule
  cases rule with
  | startInRange => exact absurd hstart hbroken
  | stopInRange => exact absurd hstop hbroken
  | bothOrNeither =>
    cases start with
    | none =>
      cases stop with
      | none => exact absurd rfl hbroken
      | some b => exact ⟨_, rfl, rfl⟩
    | some a =>
      cases stop with
      | none => exact ⟨_, rfl, rfl⟩
      | some b => exact absurd rfl hbroken
  | stopAfterStart =>
    simp only [WindowRule.Holds, not_forall] at hbroken
    obtain ⟨a, ha, b, hb, hafter⟩ := hbroken
    cases ha
    cases hb
    have hbackward : a.instant.before b.instant = false := by
      rw [← Bool.not_eq_true, (hstart a rfl).instant_before_instant_iff (hstop b rfl)]
      exact hafter
    exact ⟨.windowReversed, by simp [checkWindow, hbackward], rfl⟩
  | stopNotPast =>
    simp only [WindowRule.Holds, not_forall] at hbroken
    obtain ⟨b, hb, hpast⟩ := hbroken
    cases hb
    have hboth : start.isSome = true := hearlier .bothOrNeither (by decide)
    obtain ⟨a, rfl⟩ := Option.isSome_iff_exists.mp hboth
    have hafter : a.rank < b.rank := hearlier .stopAfterStart (by decide) a rfl b rfl
    have hforward : a.instant.before b.instant = true :=
      ((hstart a rfl).instant_before_instant_iff (hstop b rfl)).mpr hafter
    have hover : b.instant.before now = true :=
      ((hstop b rfl).instant_before_iff now).mpr (not_le.mp hpast)
    exact ⟨.windowPast, by simp [checkWindow, hforward, hover], rfl⟩

end Check

/-! ## The conversion of a window -/

/-- The lock that a message with instants for its ends stands for. -/
def LockInfobaseRequest.lock (message : LockInfobaseRequest) : LockInfobase where
  clusterId := message.clusterId
  infobaseId := message.infobaseId
  sessionsDeny := message.sessionsDeny
  scheduledJobsDeny := message.scheduledJobsDeny
  deniedFrom := message.deniedFrom.map Timestamp.instant
  deniedTo := message.deniedTo.map Timestamp.instant
  deniedMessage := message.deniedMessage
  permissionCode := message.permissionCode
  credentials := ⟨message.clusterUser, message.clusterPassword⟩

namespace LockInfobase

theorem ofMessage_eq_ok
    {message : LockInfobaseRequest} (hstart : ∀ a ∈ message.deniedFrom, a.Representable)
    (hstop : ∀ b ∈ message.deniedTo, b.Representable) : ofMessage message = .ok message.lock := by
  rw [ofMessage, instantOf_eq_ok _ hstart, instantOf_eq_ok _ hstop]
  rfl

theorem ofMessage_of_start
    {message : LockInfobaseRequest} (hstart : ¬∀ a ∈ message.deniedFrom, a.Representable) :
    ofMessage message = .error (.timeOutOfRange "denied_from") := by
  simp only [not_forall] at hstart
  obtain ⟨a, ha, hrange⟩ := hstart
  have hfrom : message.deniedFrom = some a := ha
  rw [ofMessage, hfrom, instantOf_eq_error _ hrange]
  rfl

theorem ofMessage_of_stop
    {message : LockInfobaseRequest} (hstart : ∀ a ∈ message.deniedFrom, a.Representable)
    (hstop : ¬∀ b ∈ message.deniedTo, b.Representable) :
    ofMessage message = .error (.timeOutOfRange "denied_to") := by
  simp only [not_forall] at hstop
  obtain ⟨b, hb, hrange⟩ := hstop
  have hto : message.deniedTo = some b := hb
  rw [ofMessage, instantOf_eq_ok _ hstart, hto, instantOf_eq_error _ hrange]
  rfl

end LockInfobase

end InfobaseGateway
