import InfobaseGateway.Log.Filter
import InfobaseGateway.Proofs.Text.Ascii
import InfobaseGateway.Proofs.Text.Casing
import InfobaseGateway.Proofs.Text.Separated

/-!
# Filters as they are written

A log filter is written as the name of its component, an equals sign and the name of its level. The
name of the component holds no character that means something else in a directive, so the text is
read as a directive about the targets that begin with this name, up to this level. That also goes
for a component with the name of a level, because what stands before an equals sign is a target.

When the environment gives no directives, they are written from the filters that the library sets
for itself and, behind them, the chosen ones. Joined by commas they make one text. It is read as one
directive for each filter, in the same order, and nothing in it is passed over.
-/

namespace InfobaseGateway

/-! ## Names of components -/

/-- A letter or a digit of ASCII, an underscore or a colon. -/
def IsComponentChar (c : Char) : Prop :=
  c.isAlphanum = true ∨ c = '_' ∨ c = ':'

instance : DecidablePred IsComponentChar :=
  fun _ => inferInstanceAs (Decidable (_ ∨ _))

/-- A character that may begin a target and does not end anything. -/
structure IsPlain (c : Char) : Prop where
  begins : Directive.isWordStart c = true
  no_white : Text.isWhite c = false
  no_comma : c ≠ ','
  no_equals : c ≠ '='
  no_bracket : c ≠ '['

namespace IsComponentChar

variable {c : Char}

theorem ascii (hc : IsComponentChar c) : c.toNat < 0x80 := by
  rcases hc with hc | rfl | rfl
  · exact Nat.lt_of_le_of_lt (Text.toNat_of_isAlphanum hc).2 (by decide)
  · decide
  · decide

theorem isPlain (hc : IsComponentChar c) : IsPlain c := by
  have hall : ∀ n ∈ List.range 0x80, IsComponentChar (Char.ofNat n) →
      Directive.isWordStart (Char.ofNat n) = true ∧ Text.isWhite (Char.ofNat n) = false ∧
        Char.ofNat n ≠ ',' ∧ Char.ofNat n ≠ '=' ∧ Char.ofNat n ≠ '[' := by
    decide +kernel
  have hplain := hall c.toNat (List.mem_range.mpr hc.ascii)
  rw [Char.ofNat_toNat] at hplain
  obtain ⟨hbegins, hwhite, hcomma, hequals, hbracket⟩ := hplain hc
  exact ⟨hbegins, hwhite, hcomma, hequals, hbracket⟩

end IsComponentChar

/-- The name of a component is made of such characters. -/
structure IsComponent (name : String) : Prop where
  nonempty : name ≠ ""
  chars : ∀ c ∈ name.toList, IsComponentChar c

namespace IsComponent

variable {name : String}

theorem iff_all : (name ≠ "" ∧ name.toList.all (IsComponentChar ·) = true) ↔ IsComponent name := by
  rw [List.all_eq_true]
  constructor
  · rintro ⟨hne, hchars⟩
    exact ⟨hne, fun c hc => of_decide_eq_true (hchars c hc)⟩
  · rintro ⟨hne, hchars⟩
    exact ⟨hne, fun c hc => decide_eq_true (hchars c hc)⟩

instance : DecidablePred IsComponent :=
  fun _ => decidable_of_iff _ iff_all

theorem ascii (h : IsComponent name) : ∀ c ∈ name.toList, c.toNat < 0x80 :=
  fun c hc => (h.chars c hc).ascii

theorem utf8ByteSize_eq (h : IsComponent name) : name.utf8ByteSize = name.length := by
  rw [Text.utf8ByteSize_eq_byteSize, Text.byteSize_eq_length h.ascii, String.length_toList]

end IsComponent

namespace Level

theorem isComponent_filterName (level : Level) : IsComponent level.filterName := by
  cases level
  all_goals decide

theorem rank?_filterName (level : Level) : Directive.rank? level.filterName = some level.rank := by
  cases level
  all_goals rfl

end Level

/-! ## One filter -/

namespace LogFilter

variable {filter : LogFilter}

theorem toList_directive (filter : LogFilter) :
    filter.directive.toList =
      filter.component.toList ++ '=' :: filter.level.filterName.toList := by
  simp [directive]

theorem chars_directive (hcomponent : IsComponent filter.component) :
    ∀ c ∈ filter.directive.toList, IsComponentChar c ∨ c = '=' := by
  rw [toList_directive]
  refine List.forall_mem_append.mpr ⟨fun c hc => .inl (hcomponent.chars c hc), ?_⟩
  refine List.forall_mem_cons.mpr ⟨.inr rfl, fun c hc => .inl ?_⟩
  exact filter.level.isComponent_filterName.chars c hc

theorem comma_not_mem_directive (hcomponent : IsComponent filter.component) :
    ',' ∉ filter.directive.toList := by
  intro hcomma
  rcases chars_directive hcomponent ',' hcomma with hchar | hequals
  · exact hchar.isPlain.no_comma rfl
  · cases hequals

theorem trim_directive (hcomponent : IsComponent filter.component) :
    Text.trim filter.directive = filter.directive := by
  apply Text.trim_eq_self
  intro c hc
  rcases chars_directive hcomponent c hc with hchar | rfl
  · exact hchar.isPlain.no_white
  · rfl

end LogFilter

namespace Directive

/-- The directive about the targets that begin with the component of a filter. -/
def ofFilter (filter : LogFilter) : Directive :=
  ⟨some filter.component, none, [], filter.level.rank⟩

variable (text : List Char) (directive : Directive)

/-- A word goes on to an equals sign or a bracket. -/
theorem readFrom_word
    {word : List Char} (hword : ∀ c ∈ word, IsComponentChar c) (start index : Nat)
    (rest : List Char) :
    readFrom text index (.word start) directive (word ++ rest) =
      readFrom text (index + Text.byteSize word) (.word start) directive rest := by
  induction word generalizing index with
  | nil => rfl
  | cons c word ih =>
    obtain ⟨hc, hword⟩ := List.forall_mem_cons.mp hword
    have hstep : step text index c directive (.word start) = .ok (.word start, directive) := by
      simp only [step, hc.isPlain.no_equals, hc.isPlain.no_bracket, if_false]
    rw [List.cons_append, readFrom, hstep, Text.byteSize, ← Nat.add_assoc]
    exact ih hword (index + c.utf8Size)

theorem readFrom_start
    {word : List Char} (hne : word ≠ []) (hword : ∀ c ∈ word, IsComponentChar c)
    (rest : List Char) :
    readFrom text 0 .start directive (word ++ rest) =
      readFrom text (Text.byteSize word) (.word 0) directive rest := by
  obtain ⟨c, word, rfl⟩ := List.exists_cons_of_ne_nil hne
  obtain ⟨hc, hword⟩ := List.forall_mem_cons.mp hword
  have hstep : step text 0 c directive .start = .ok (.word 0, directive) := by
    simp only [step, hc.isPlain.no_bracket, hc.isPlain.begins, if_false, if_true]
  rw [List.cons_append, readFrom, hstep, Text.byteSize, Nat.zero_add]
  exact readFrom_word text directive hword 0 c.utf8Size rest

/-- A level goes on to the end. -/
theorem readFrom_level (start index : Nat) (rest : List Char) :
    readFrom text index (.level start) directive rest = .ok (.level start, directive) := by
  induction rest generalizing index with
  | nil => rfl
  | cons c rest ih => exact ih (index + c.utf8Size)

/-- A word before an equals sign is the target, and behind the sign begins the level. -/
theorem readFrom_target
    {word level : List Char} (hne : word ≠ []) (hword : ∀ c ∈ word, IsComponentChar c) :
    readFrom (word ++ '=' :: level) 0 .start directive (word ++ '=' :: level) =
      .ok (.level (word.length + 1), { directive with target := some (String.ofList word) }) := by
  have hascii : ∀ c ∈ word, c.toNat < 0x80 := fun c hc => (hword c hc).ascii
  have hpart : part (word ++ '=' :: level) 0 word.length = String.ofList word := by
    have hdrop : Text.dropBytes 0 (word ++ '=' :: level) = word ++ '=' :: level :=
      @Text.dropBytes_append [] nofun _
    rw [part, hdrop, Nat.sub_zero, Text.takeBytes_append hascii]
  rw [readFrom_start _ directive hne hword, Text.byteSize_eq_length hascii, readFrom]
  simp only [step, if_true, hpart]
  exact readFrom_level _ _ _ _ level

/-- A written filter is read as the directive that it means. -/
theorem parse_directive {filter : LogFilter} (hcomponent : IsComponent filter.component) :
    parse filter.directive = .ok (ofFilter filter) := by
  have hne : filter.component.toList ≠ [] :=
    fun hnil => hcomponent.nonempty (String.toList_eq_nil_iff.mp hnil)
  have hlevel := filter.level.isComponent_filterName.nonempty
  have hdrop : Text.dropBytes (filter.component.toList.length + 1)
      (filter.component.toList ++ '=' :: filter.level.filterName.toList) =
        filter.level.filterName.toList := by
    have hascii : ∀ c ∈ filter.component.toList ++ ['='], c.toNat < 0x80 :=
      List.forall_mem_append.mpr
        ⟨hcomponent.ascii, List.forall_mem_singleton.mpr (by decide)⟩
    have hbehind := Text.dropBytes_append hascii filter.level.filterName.toList
    rwa [List.length_append, List.append_assoc] at hbehind
  rw [parse, LogFilter.trim_directive hcomponent, LogFilter.toList_directive,
    readFrom_target everything hne hcomponent.chars]
  simp only [bind, Except.bind, finish, hdrop, String.ofList_toList, hlevel, if_false,
    Level.rank?_filterName]
  rfl

/-- A component may have the name of a level. -/
example : parse "trace=warn" = .ok (ofFilter ⟨"trace", .warn⟩) :=
  rfl

/-- The directive that lets errors through from everywhere. -/
def errors : Directive :=
  { everything with rank := 1 }

end Directive

/-! ## All filters in force -/

namespace LogFilter

/-- The filters that the library sets for itself. -/
def standing : List LogFilter :=
  ⟨"opentelemetry_sdk", .info⟩ :: gatewayComponents.map (⟨·, .trace⟩)

/-- The filters in force when the environment gives no directives. -/
def inForce (chosen : List LogFilter) : List LogFilter :=
  standing ++ chosen

theorem defaultDirectives_eq (chosen : List LogFilter) :
    defaultDirectives chosen = ",".intercalate ("error" :: (inForce chosen).map directive) := by
  have hgateway : gatewayComponents.map (· ++ "=trace") =
      (gatewayComponents.map (⟨·, .trace⟩)).map directive := by
    decide
  rw [defaultDirectives, hgateway, inForce, standing]
  rfl

variable {chosen : List LogFilter}

theorem isComponent_inForce (hchosen : ∀ filter ∈ chosen, IsComponent filter.component) :
    ∀ filter ∈ inForce chosen, IsComponent filter.component := by
  have hstanding : ∀ filter ∈ standing, IsComponent filter.component := by
    decide
  exact List.forall_mem_append.mpr ⟨hstanding, hchosen⟩

/-- The text has one part for each filter, behind the one about errors. -/
theorem parts_defaultDirectives (hchosen : ∀ filter ∈ chosen, IsComponent filter.component) :
    Filter.parts (defaultDirectives chosen) = "error" :: (inForce chosen).map directive := by
  have hparts : ∀ part ∈ "error" :: (inForce chosen).map directive,
      ',' ∉ part.toList ∧ part ≠ "" := by
    refine List.forall_mem_cons.mpr ⟨by decide, List.forall_mem_map.mpr fun filter hfilter => ?_⟩
    refine ⟨comma_not_mem_directive (isComponent_inForce hchosen filter hfilter), ?_⟩
    simp [directive]
  have hsplit := Text.splitOn_intercalate ',' (List.cons_ne_nil "error" _) fun part hpart =>
    (hparts part hpart).1
  have hkept := List.filter_eq_self.mpr fun part hpart => decide_eq_true (hparts part hpart).2
  rw [Filter.parts, defaultDirectives_eq]
  exact (congrArg _ hsplit).trans hkept

/-- Each part is read as the directive of its filter. -/
theorem map_parse_parts (hchosen : ∀ filter ∈ chosen, IsComponent filter.component) :
    (Filter.parts (defaultDirectives chosen)).map Directive.parse =
      (Directive.errors :: (inForce chosen).map .ofFilter).map .ok := by
  have hparse : ∀ filter ∈ inForce chosen,
      Directive.parse filter.directive = .ok (.ofFilter filter) :=
    fun filter hfilter => Directive.parse_directive (isComponent_inForce hchosen filter hfilter)
  rw [parts_defaultDirectives hchosen, List.map_cons, List.map_cons, List.map_map, List.map_map]
  exact congrArg _ (List.map_congr_left hparse)

theorem rejected_defaultDirectives (hchosen : ∀ filter ∈ chosen, IsComponent filter.component) :
    Filter.rejected (defaultDirectives chosen) = [] := by
  refine List.filterMap_eq_nil_iff.mpr fun part hpart => ?_
  have hread := List.mem_map_of_mem (f := Directive.parse) hpart
  rw [map_parse_parts hchosen] at hread
  obtain ⟨directive, -, hread⟩ := List.mem_map.mp hread
  rw [← hread]

theorem parse_defaultDirectives (hchosen : ∀ filter ∈ chosen, IsComponent filter.component) :
    Filter.parse (defaultDirectives chosen) = .errors :: (inForce chosen).map .ofFilter := by
  have hread : (Filter.parts (defaultDirectives chosen)).filterMap
      (fun part => (Directive.parse part).toOption) =
        .errors :: (inForce chosen).map .ofFilter := by
    calc
      (Filter.parts (defaultDirectives chosen)).filterMap
          (fun part => (Directive.parse part).toOption)
        = ((Filter.parts (defaultDirectives chosen)).map Directive.parse).filterMap
            Except.toOption := by
          rw [List.filterMap_map]
          rfl
      _ = .errors :: (inForce chosen).map .ofFilter := by
          rw [map_parse_parts hchosen, List.filterMap_map]
          exact List.filterMap_some
  rw [Filter.parse, hread]

end LogFilter

end InfobaseGateway
