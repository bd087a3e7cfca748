import InfobaseGateway.Proofs.Log.Written
import Mathlib.Data.List.Induction

/-!
# Which filter decides

The filter with the longest component that a target begins with decides how much is let through for
the target, and of several filters for this component the last one. A target that begins with none
of the components has its errors let through.

The directives are searched from first to last, and the search keeps the one that asks for the most.
What it has kept after each directive is the one that would decide if the list of filters ended
there. So a filter that is added at the end decides instead of the one before if it covers the
target and its component is not shorter, and changes nothing otherwise.
-/

namespace InfobaseGateway

/-! ## The deciding filter -/

namespace LogFilter

/-- A filter covers the targets that begin with its component. -/
def Covers (filter : LogFilter) (target : String) : Prop :=
  filter.component.toList <+: target.toList

instance (filter : LogFilter) (target : String) : Decidable (filter.Covers target) :=
  inferInstanceAs (Decidable (_ <+: _))

/-- Two components of one length that a target begins with are the same. -/
theorem Covers.component_eq {filter other : LogFilter} {target : String}
    (h : filter.Covers target) (h' : other.Covers target)
    (hlength : filter.component.length = other.component.length) :
    filter.component = other.component := by
  rw [← String.length_toList, ← String.length_toList] at hlength
  have hbegins := List.prefix_of_prefix_length_le h h' hlength.le
  exact String.toList_inj.mp (hbegins.eq_of_length hlength)

/-- Of two places in a list, one is behind the other unless they are the same. -/
theorem eq_or_mem_of_split
    {α : Type} {before after before' after' : List α} {here there : α}
    (hsplit : before ++ here :: after = before' ++ there :: after') :
    here = there ∨ there ∈ after ∨ here ∈ after' := by
  rcases List.append_eq_append_iff.mp hsplit with ⟨between, -, hrest⟩ | ⟨between, -, hrest⟩
  · cases between with
    | nil => exact .inl (List.head_eq_of_cons_eq hrest)
    | cons first between =>
      refine .inr (.inl ?_)
      rw [List.tail_eq_of_cons_eq hrest]
      exact List.mem_append_right between List.mem_cons_self
  · cases between with
    | nil => exact .inl (List.head_eq_of_cons_eq hrest).symm
    | cons first between =>
      refine .inr (.inr ?_)
      rw [List.tail_eq_of_cons_eq hrest]
      exact List.mem_append_right between List.mem_cons_self

/-- A filter of a list decides about a target that it covers if no other one that does has a longer
component, and none behind it the same component. -/
structure Decides (filters : List LogFilter) (target : String) (filter : LogFilter) : Prop where
  covers : filter.Covers target
  longest : ∀ other ∈ filters, other.Covers target →
    other.component.length ≤ filter.component.length
  last : ∃ before after, filters = before ++ filter :: after ∧
    ∀ other ∈ after, other.component ≠ filter.component

/-- The level that filters set for a target: the one of the deciding filter, and errors if none
covers the target. -/
inductive SetsLevel (filters : List LogFilter) (target : String) : Level → Prop
  | decided {filter : LogFilter} (hdecides : Decides filters target filter) :
      SetsLevel filters target filter.level
  | uncovered (hnone : ∀ filter ∈ filters, ¬filter.Covers target) : SetsLevel filters target .error

namespace Decides

variable {filters : List LogFilter} {target : String} {filter other added : LogFilter}

theorem mem (h : Decides filters target filter) : filter ∈ filters := by
  obtain ⟨before, after, rfl, -⟩ := h.last
  exact List.mem_append_right before List.mem_cons_self

/-- Of two filters that decide, neither stands behind the other. -/
theorem unique (h : Decides filters target filter) (h' : Decides filters target other) :
    filter = other := by
  have hlength := Nat.le_antisymm (h'.longest filter h.mem h.covers)
    (h.longest other h'.mem h'.covers)
  have hcomponent := h.covers.component_eq h'.covers hlength
  obtain ⟨before, after, rfl, hafter⟩ := h.last
  obtain ⟨before', after', hsplit, hafter'⟩ := h'.last
  rcases eq_or_mem_of_split hsplit with heq | hbehind | hbehind
  · exact heq
  · exact absurd hcomponent.symm (hafter other hbehind)
  · exact absurd hcomponent (hafter' filter hbehind)

/-- A filter goes on to decide if the one that is added does not cover the target or has a shorter
component. -/
theorem concat (h : Decides filters target filter)
    (hshort : added.Covers target → added.component.length < filter.component.length) :
    Decides (filters ++ [added]) target filter where
  covers := h.covers
  longest := List.forall_mem_append.mpr
    ⟨h.longest, List.forall_mem_singleton.mpr fun hcovers => (hshort hcovers).le⟩
  last := by
    have hother : added.component ≠ filter.component := by
      intro hcomponent
      have hcovers : added.Covers target := by
        rw [Covers, hcomponent]
        exact h.covers
      have hlt := hshort hcovers
      rw [hcomponent] at hlt
      exact Nat.lt_irrefl _ hlt
    obtain ⟨before, after, rfl, hafter⟩ := h.last
    refine ⟨before, after ++ [added], by simp, ?_⟩
    exact List.forall_mem_append.mpr ⟨hafter, List.forall_mem_singleton.mpr hother⟩

/-- The filter that is added decides if it covers the target and no other one that does has a longer
component. -/
theorem concat_self (hcovers : added.Covers target)
    (hlongest : ∀ other ∈ filters, other.Covers target →
      other.component.length ≤ added.component.length) :
    Decides (filters ++ [added]) target added where
  covers := hcovers
  longest := List.forall_mem_append.mpr
    ⟨hlongest, List.forall_mem_singleton.mpr fun _ => Nat.le_refl _⟩
  last := ⟨filters, [], rfl, nofun⟩

end Decides

theorem SetsLevel.unique {filters : List LogFilter} {target : String} {level level' : Level}
    (h : SetsLevel filters target level) (h' : SetsLevel filters target level') :
    level = level' := by
  cases h with
  | decided hdecides =>
    cases h' with
    | decided hdecides' => rw [hdecides.unique hdecides']
    | uncovered hnone => exact absurd hdecides.covers (hnone _ hdecides.mem)
  | uncovered hnone =>
    cases h' with
    | decided hdecides => exact absurd hdecides.covers (hnone _ hdecides.mem)
    | uncovered => rfl

end LogFilter

/-! ## The search -/

namespace Directive

theorem concerns_errors (target : String) (fields : Option (List String)) :
    errors.concerns target fields = true := by
  cases fields
  all_goals rfl

theorem concerns_ofFilter_iff
    (filter : LogFilter) (target : String) (fields : Option (List String)) :
    (ofFilter filter).concerns target fields = true ↔ filter.Covers target := by
  cases fields
  all_goals simp [concerns, isStatic, ofFilter, LogFilter.Covers]

theorem isGE_order_errors (filter : LogFilter) : ((ofFilter filter).order errors).isGE = true :=
  rfl

/-- Directives about components are in the order of the lengths. -/
theorem isGE_order_ofFilter_iff
    {filter other : LogFilter} (hfilter : IsComponent filter.component)
    (hother : IsComponent other.component) :
    ((ofFilter filter).order (ofFilter other)).isGE = true ↔
      other.component.length ≤ filter.component.length := by
  have horder : (ofFilter filter).order (ofFilter other) =
      compare filter.component.length other.component.length := by
    calc
      (ofFilter filter).order (ofFilter other)
        = (compare filter.component.utf8ByteSize other.component.utf8ByteSize).then .eq := rfl
      _ = compare filter.component.utf8ByteSize other.component.utf8ByteSize := Ordering.then_eq
      _ = compare filter.component.length other.component.length := by
        rw [hfilter.utf8ByteSize_eq, hother.utf8ByteSize_eq]
  rw [horder]
  exact Nat.isGE_compare

end Directive

namespace Filter

/-- What the search keeps when it comes to one more directive that concerns the target. -/
def better (kept : Option Directive) (directive : Directive) : Option Directive :=
  match kept with
  | none => some directive
  | some other => if (directive.order other).isGE then some directive else some other

theorem deciding?_concat (filter : Filter) (directive : Directive) (target : String)
    (fields : Option (List String)) :
    deciding? (filter ++ [directive]) target fields =
      if directive.concerns target fields then better (filter.deciding? target fields) directive
      else filter.deciding? target fields := by
  have hsearch (filter : Filter) :
      filter.deciding? target fields =
        (filter.filter (·.concerns target fields)).foldl better none :=
    rfl
  rw [hsearch, hsearch, List.filter_append, List.foldl_append, List.filter_singleton]
  split
  · next hconcerns => simp [hconcerns]
  · next hconcerns => simp [hconcerns]

/-- The search ends at the directive of the deciding filter, or else at the one about errors. -/
theorem deciding?_cases
    {filters : List LogFilter} (hcomponents : ∀ filter ∈ filters, IsComponent filter.component)
    (target : String) (fields : Option (List String)) :
    (∃ filter, LogFilter.Decides filters target filter ∧
        deciding? (.errors :: filters.map .ofFilter) target fields = some (.ofFilter filter)) ∨
      (∀ filter ∈ filters, ¬filter.Covers target) ∧
        deciding? (.errors :: filters.map .ofFilter) target fields = some .errors := by
  -- The list is taken apart at its end, where the search is.
  induction filters using List.reverseRecOn with
  | nil =>
    refine .inr ⟨nofun, ?_⟩
    simp [deciding?, Directive.concerns_errors target fields]
  | append_singleton filters added ih =>
    obtain ⟨hfilters, hadded⟩ := List.forall_mem_append.mp hcomponents
    rw [List.map_append, List.map_singleton, ← List.cons_append, deciding?_concat]
    by_cases hcovers : added.Covers target
    · rw [if_pos ((Directive.concerns_ofFilter_iff added target fields).mpr hcovers)]
      rcases ih hfilters with ⟨filter, hdecides, hfound⟩ | ⟨hnone, hfound⟩
      · rw [hfound, better]
        have hasks := Directive.isGE_order_ofFilter_iff (hadded added List.mem_cons_self)
          (hfilters filter hdecides.mem)
        by_cases hlength : filter.component.length ≤ added.component.length
        · rw [if_pos (hasks.mpr hlength)]
          refine .inl ⟨added, .concat_self hcovers fun other hother hcovers' => ?_, rfl⟩
          exact (hdecides.longest other hother hcovers').trans hlength
        · rw [if_neg (mt hasks.mp hlength)]
          exact .inl ⟨filter, hdecides.concat fun _ => Nat.lt_of_not_le hlength, rfl⟩
      · rw [hfound, better, if_pos (Directive.isGE_order_errors added)]
        refine .inl ⟨added, .concat_self hcovers fun other hother hcovers' => ?_, rfl⟩
        exact absurd hcovers' (hnone other hother)
    · rw [if_neg (mt (Directive.concerns_ofFilter_iff added target fields).mp hcovers)]
      rcases ih hfilters with ⟨filter, hdecides, hfound⟩ | ⟨hnone, hfound⟩
      · exact .inl ⟨filter, hdecides.concat fun h => absurd h hcovers, hfound⟩
      · refine .inr ⟨?_, hfound⟩
        exact List.forall_mem_append.mpr ⟨hnone, List.forall_mem_singleton.mpr hcovers⟩

end Filter

/-! ## What is let through -/

theorem Level.rank_injective {level level' : Level} (hrank : level.rank = level'.rank) :
    level = level' := by
  cases level
  all_goals
    cases level'
    all_goals first | rfl | cases hrank

namespace Filter

/-- A filter lets the events of a target through up to a level and no others, whatever fields they
have. The same goes for spans, which are not asked for fields. -/
structure LetsThrough (filter : Filter) (target : String) (level : Level) : Prop where
  rank : ∀ fields, filter.rankFor target fields = level.rank
  events : ∀ event : Event, filter.passes target event = true ↔ event.level.rank ≤ level.rank

theorem LetsThrough.of_rank {filter : Filter} {target : String} {level : Level}
    (hrank : ∀ fields, filter.rankFor target fields = level.rank) :
    filter.LetsThrough target level where
  rank := hrank
  events event := by rw [passes, hrank, decide_eq_true_iff]

/-- The level that filters set for a target is the one that their directives let through. -/
theorem letsThrough_of_setsLevel
    {filters : List LogFilter} (hcomponents : ∀ filter ∈ filters, IsComponent filter.component)
    {target : String} {level : Level} (hlevel : LogFilter.SetsLevel filters target level) :
    LetsThrough (.errors :: filters.map .ofFilter) target level := by
  refine .of_rank fun fields => ?_
  rcases deciding?_cases hcomponents target fields with ⟨filter, hdecides, hfound⟩ | ⟨hnone, hfound⟩
  · rw [hlevel.unique (.decided hdecides), rankFor, hfound]
    rfl
  · rw [hlevel.unique (.uncovered hnone), rankFor, hfound]
    rfl

end Filter

/-- What becomes of the chosen filters when the environment gives no directives. -/
structure DecidedByLongest (chosen : List LogFilter) (target : String) : Prop where
  /-- Nothing in the text of the filters is passed over. -/
  accepted : Filter.rejected (LogFilter.defaultDirectives chosen) = []
  /-- Some level is set for the target. -/
  exists_level : ∃ level, LogFilter.SetsLevel (LogFilter.inForce chosen) target level
  /-- The events of the target are let through up to just this level. -/
  letsThrough_iff : ∀ level, (Filter.global none chosen).LetsThrough target level ↔
    LogFilter.SetsLevel (LogFilter.inForce chosen) target level

/-- For every target, the last of the filters for the longest component that it begins with decides,
whether this is a chosen filter or one that the library sets for itself. -/
theorem decidedByLongest
    {chosen : List LogFilter} (hchosen : ∀ filter ∈ chosen, IsComponent filter.component)
    (target : String) : DecidedByLongest chosen target := by
  have hcomponents := LogFilter.isComponent_inForce hchosen
  have hglobal : Filter.global none chosen =
      .errors :: (LogFilter.inForce chosen).map .ofFilter :=
    LogFilter.parse_defaultDirectives hchosen
  have hlevels : ∃ level, LogFilter.SetsLevel (LogFilter.inForce chosen) target level := by
    rcases Filter.deciding?_cases hcomponents target none with ⟨filter, hdecides, -⟩ | ⟨hnone, -⟩
    · exact ⟨filter.level, .decided hdecides⟩
    · exact ⟨.error, .uncovered hnone⟩
  constructor
  case accepted => exact LogFilter.rejected_defaultDirectives hchosen
  case exists_level => exact hlevels
  case letsThrough_iff =>
    intro level
    rw [hglobal]
    constructor
    · intro hlets
      obtain ⟨level', hlevel'⟩ := hlevels
      have hlets' := Filter.letsThrough_of_setsLevel hcomponents hlevel'
      rwa [Level.rank_injective ((hlets.rank none).symm.trans (hlets'.rank none))]
    · exact Filter.letsThrough_of_setsLevel hcomponents

/-- Filters for a component that is chosen twice, for a longer one, for one of the library's own and
for one that all of the library's components begin with. -/
theorem decidedByLongest_tonic_twice :
    let chosen : List LogFilter := [⟨"tonic", .warn⟩, ⟨"tonic::transport", .debug⟩,
      ⟨"ras_gateway", .error⟩, ⟨"tonic", .info⟩, ⟨"ras_", .debug⟩]
    (∀ filter ∈ chosen, IsComponent filter.component) ∧
      (Filter.global none chosen).LetsThrough "tonic::codec" .info ∧
        (Filter.global none chosen).LetsThrough "ras_gateway::server" .error ∧
          (Filter.global none chosen).LetsThrough "ras_types" .trace ∧
            (Filter.global none chosen).LetsThrough "h2" .error := by
  intro chosen
  have hchosen : ∀ filter ∈ chosen, IsComponent filter.component := by decide
  have htonic : LogFilter.Decides (LogFilter.inForce chosen) "tonic::codec" ⟨"tonic", .info⟩ :=
    ⟨by decide, by decide, LogFilter.standing ++ chosen.take 3, chosen.drop 4, rfl, by decide⟩
  have hgateway : LogFilter.Decides (LogFilter.inForce chosen) "ras_gateway::server"
      ⟨"ras_gateway", .error⟩ :=
    ⟨by decide, by decide, LogFilter.standing ++ chosen.take 2, chosen.drop 3, rfl, by decide⟩
  have htypes : LogFilter.Decides (LogFilter.inForce chosen) "ras_types" ⟨"ras_types", .trace⟩ :=
    ⟨by decide, by decide, LogFilter.standing.take 5, chosen, rfl, by decide⟩
  refine ⟨hchosen, ?_, ?_, ?_, ?_⟩
  · exact ((decidedByLongest hchosen "tonic::codec").letsThrough_iff .info).mpr (.decided htonic)
  · exact ((decidedByLongest hchosen "ras_gateway::server").letsThrough_iff .error).mpr
      (.decided hgateway)
  · exact ((decidedByLongest hchosen "ras_types").letsThrough_iff .trace).mpr (.decided htypes)
  · exact ((decidedByLongest hchosen "h2").letsThrough_iff .error).mpr (.uncovered (by decide))

end InfobaseGateway
