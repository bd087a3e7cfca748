import InfobaseGateway.Chain.Standard

/-!
# The order of stages

A list of stages can be a chain if no stage that observes stands before one that protects, however
far apart they are and whatever stands between them. A list that cannot is refused with the names of
its first observing stage and of the first protecting stage after that one.

The check passes over the list once and remembers at most one name. Two facts link it to positions:
until a stage observes nothing is remembered, and from then on the name of that stage, so that the
rest of the list is only searched for a stage that protects.
-/

namespace InfobaseGateway

/-! ## Positions of stages -/

/-- Position `i` holds the first stage of a kind, counted from position `start` on. -/
structure FirstOfKind (kind : StageKind) (start : Nat) (stages : List Stage) (i : Nat)
    (stage : Stage) : Prop where
  start_le : start ≤ i
  here : stages[i]? = some stage
  kind_eq : stage.kind = kind
  before : ∀ k, start ≤ k → k < i → ∀ other, stages[k]? = some other → other.kind ≠ kind

namespace FirstOfKind

variable {kind : StageKind} {start i : Nat} {stages : List Stage} {first stage : Stage}

theorem head (hkind : stage.kind = kind) : FirstOfKind kind 0 (stage :: stages) 0 stage :=
  ⟨Nat.le_refl 0, rfl, hkind, fun k _ hk => absurd hk (Nat.not_lt_zero k)⟩

/-- A stage of another kind in front moves the first stage by one position. -/
theorem cons (h : FirstOfKind kind 0 stages i first) (hkind : stage.kind ≠ kind) :
    FirstOfKind kind 0 (stage :: stages) (i + 1) first where
  start_le := Nat.zero_le _
  here := h.here
  kind_eq := h.kind_eq
  before k _ hk other hother := by
    cases k with
    | zero =>
      cases hother
      exact hkind
    | succ k => exact h.before k (Nat.zero_le k) (Nat.lt_of_succ_lt_succ hk) other hother

/-- The first stage of a rest is the first one from where the rest begins. -/
theorem of_drop (h : FirstOfKind kind 0 (stages.drop start) i first) :
    FirstOfKind kind start stages (start + i) first where
  start_le := Nat.le_add_right start i
  here := by
    rw [← List.getElem?_drop]
    exact h.here
  kind_eq := h.kind_eq
  before k hstart hk other hother := by
    obtain ⟨d, rfl⟩ := Nat.exists_eq_add_of_le hstart
    rw [← List.getElem?_drop] at hother
    exact h.before d (Nat.zero_le d) (Nat.lt_of_add_lt_add_left hk) other hother

end FirstOfKind

/-- Position `i` holds a stage of a kind. -/
def HasKindAt (kind : StageKind) (stages : List Stage) (i : Nat) : Prop :=
  ∃ stage, stages[i]? = some stage ∧ stage.kind = kind

/-- Somewhere a stage that observes stands before a stage that protects. -/
def Misordered (stages : List Stage) : Prop :=
  ∃ i j, i < j ∧ HasKindAt .observability stages i ∧ HasKindAt .security stages j

/-! ## The pass over the list -/

/-- Once a name is remembered, the rest is searched for the first stage that protects. -/
theorem misorderAfter_some_cases (name : String) (stages : List Stage) :
    (∃ i protecting, FirstOfKind .security 0 stages i protecting ∧
        misorderAfter (some name) stages = some ⟨name, protecting.name⟩) ∨
      (∀ stage ∈ stages, stage.kind ≠ .security) ∧ misorderAfter (some name) stages = none := by
  induction stages with
  | nil => exact .inr ⟨nofun, rfl⟩
  | cons stage stages ih =>
    by_cases hprotects : stage.kind = .security
    · refine .inl ⟨0, stage, .head hprotects, ?_⟩
      simp [misorderAfter, hprotects]
    · have hskip :
          misorderAfter (some name) (stage :: stages) = misorderAfter (some name) stages := by
        cases hkind : stage.kind with
        | security => exact absurd hkind hprotects
        | observability => simp [misorderAfter, hkind]
        | other => simp [misorderAfter, hkind]
      rw [hskip]
      rcases ih with ⟨i, protecting, hfirst, herror⟩ | ⟨hnone, hquiet⟩
      · exact .inl ⟨i + 1, protecting, hfirst.cons hprotects, herror⟩
      · exact .inr ⟨List.forall_mem_cons.mpr ⟨hprotects, hnone⟩, hquiet⟩

/-- Until a stage observes nothing is remembered, and then the name of that stage. -/
theorem misorderAfter_none_cases (stages : List Stage) :
    (∃ i observing, FirstOfKind .observability 0 stages i observing ∧
        misorderAfter none stages = misorderAfter (some observing.name) (stages.drop (i + 1))) ∨
      (∀ stage ∈ stages, stage.kind ≠ .observability) ∧ misorderAfter none stages = none := by
  induction stages with
  | nil => exact .inr ⟨nofun, rfl⟩
  | cons stage stages ih =>
    by_cases hobserves : stage.kind = .observability
    · refine .inl ⟨0, stage, .head hobserves, ?_⟩
      simp [misorderAfter, hobserves]
    · have hskip : misorderAfter none (stage :: stages) = misorderAfter none stages := by
        cases hkind : stage.kind with
        | security => simp [misorderAfter, hkind]
        | observability => exact absurd hkind hobserves
        | other => simp [misorderAfter, hkind]
      rw [hskip]
      rcases ih with ⟨i, observing, hfirst, hrest⟩ | ⟨hnone, hquiet⟩
      · exact .inl ⟨i + 1, observing, hfirst.cons hobserves, hrest⟩
      · exact .inr ⟨List.forall_mem_cons.mpr ⟨hobserves, hnone⟩, hquiet⟩

/-- The pass finds the first observing stage and the first protecting stage after it, if there is
such a pair at all. -/
theorem misorderAfter_cases (stages : List Stage) :
    (∃ i j observing protecting, FirstOfKind .observability 0 stages i observing ∧
        FirstOfKind .security (i + 1) stages j protecting ∧
          misorderAfter none stages = some ⟨observing.name, protecting.name⟩) ∨
      ¬Misordered stages ∧ misorderAfter none stages = none := by
  rcases misorderAfter_none_cases stages with ⟨i, observing, hobserving, hrest⟩ | ⟨hnone, hquiet⟩
  · rw [hrest]
    rcases misorderAfter_some_cases observing.name (stages.drop (i + 1)) with
      ⟨j, protecting, hprotecting, herror⟩ | ⟨hnone, hquiet⟩
    · exact .inl ⟨i, i + 1 + j, observing, protecting, hobserving, hprotecting.of_drop, herror⟩
    · refine .inr ⟨?_, hquiet⟩
      -- An observing stage at `i'` cannot precede the first one, so what protects after `i'` lies
      -- in the rest that was searched.
      rintro ⟨i', j', hbelow, ⟨earlier, hearlier, hobserves⟩, later, hlater, hprotects⟩
      have hle : i ≤ i' := Nat.le_of_not_lt fun hlt =>
        hobserving.before i' (Nat.zero_le i') hlt earlier hearlier hobserves
      obtain ⟨d, rfl⟩ := Nat.exists_eq_add_of_le (Nat.lt_of_le_of_lt hle hbelow)
      rw [← List.getElem?_drop] at hlater
      exact hnone later (List.mem_of_getElem? hlater) hprotects
  · refine .inr ⟨?_, hquiet⟩
    rintro ⟨i, -, -, ⟨stage, hstage, hobserves⟩, -⟩
    exact hnone stage (List.mem_of_getElem? hstage) hobserves

/-! ## The check -/

/-- What the check of a list of stages says, in terms of positions. -/
structure CheckedByPosition (stages : List Stage) : Prop where
  /-- A list is accepted exactly if nothing that observes stands before something that protects. -/
  accepted_iff : (∃ kept, checkOrder stages = .ok kept) ↔ ¬Misordered stages
  /-- An accepted list keeps its stages and their order. -/
  kept : ∀ kept, checkOrder stages = .ok kept → kept = stages
  /-- A refusal names the first observing stage and the first protecting stage after it. -/
  refused : ∀ error, checkOrder stages = .error error →
    ∃ i j observing protecting, FirstOfKind .observability 0 stages i observing ∧
      FirstOfKind .security (i + 1) stages j protecting ∧
        error = ⟨observing.name, protecting.name⟩

theorem FirstOfKind.misordered
    {stages : List Stage} {i j : Nat} {observing protecting : Stage}
    (hobserving : FirstOfKind .observability 0 stages i observing)
    (hprotecting : FirstOfKind .security (i + 1) stages j protecting) : Misordered stages :=
  ⟨i, j, hprotecting.start_le, ⟨observing, hobserving.here, hobserving.kind_eq⟩,
    protecting, hprotecting.here, hprotecting.kind_eq⟩

/-- One pass with one remembered name decides about all pairs of positions, for stages of any kinds
and any names, also where kinds repeat and other stages stand between them. -/
theorem checkOrder_checkedByPosition (stages : List Stage) : CheckedByPosition stages := by
  rcases misorderAfter_cases stages with
    ⟨i, j, observing, protecting, hobserving, hprotecting, hfound⟩ | ⟨hordered, hfound⟩
  · have herror : checkOrder stages = .error ⟨observing.name, protecting.name⟩ := by
      rw [checkOrder, hfound]
    constructor
    case accepted_iff =>
      rw [herror]
      simpa using hobserving.misordered hprotecting
    case kept => simp [herror]
    case refused =>
      intro error h
      cases herror.symm.trans h
      exact ⟨i, j, observing, protecting, hobserving, hprotecting, rfl⟩
  · have hok : checkOrder stages = .ok stages := by
      rw [checkOrder, hfound]
    constructor
    case accepted_iff =>
      rw [hok]
      simpa using hordered
    case kept =>
      intro kept h
      cases hok.symm.trans h
      rfl
    case refused => simp [hok]

/-- The standard stages are in order. -/
example : checkOrder standardStages = .ok standardStages :=
  rfl

end InfobaseGateway
