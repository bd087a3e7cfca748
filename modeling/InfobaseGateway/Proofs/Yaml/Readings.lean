import InfobaseGateway.Proofs.Yaml.Scalars

/-!
# Scanning one token of a written document

A written document is one line that begins with a bracket or a brace, so indentation never matters
in it. What remains of the state of a scanner is what is left, the tokens so far, how many brackets
and braces are open, and whether a key may begin. Each kind of token moves this on in its own way.
-/

namespace InfobaseGateway.Yaml

namespace Reading

/-- Where a reading stands in a written document, after its first character: what is left, the
tokens so far, and how many brackets and braces are open. No key is required anywhere. -/
structure Within (reading : Reading) (depth : Nat) (tokens : List Token) (rest : List Char) :
    Prop where
  rest_eq : reading.cursor.rest = rest
  column_pos : 0 < reading.cursor.place.column
  tokens_eq : reading.tokens.toList = tokens
  columns_eq : reading.columns = []
  depth_eq : reading.outer.length = depth
  optional : ∀ key ∈ reading.keyStart, key.required = false
  outer_optional : ∀ start ∈ reading.outer, ∀ key ∈ start, key.required = false

/-- What comes out in the end, if there are enough steps. -/
def Finishes (reading : Reading) (tokens : List Token) : Prop :=
  ∀ steps, reading.cursor.rest.length < steps →
    (finish steps reading).map Array.toList = some tokens

/-- Whether a character may be the first of a token. -/
def startsToken (c : Char) : Bool :=
  !isBreak c && c ≠ ' ' && c ≠ '\t' && c ≠ '#'

/-- A reading without the keys that can no longer get their colon. -/
def expired (reading : Reading) : Reading :=
  { reading with
    keyStart := reading.keyStart.filter (reaches · reading.cursor.place)
    outer := reading.outer.map (·.filter (reaches · reading.cursor.place)) }

/-- A reading at which a key is noted if one may begin. -/
def noted (reading : Reading) : Reading :=
  if reading.keys then
    { reading with
      keyStart := some ⟨false, reading.tokens.size, reading.cursor.place⟩ }
  else reading

/-- A reading after a scalar, which may have been a key. -/
def withScalar (reading : Reading) (style : ScalarStyle) (text : List Char) (count : Nat)
    (rest : List Char) : Reading :=
  { (reading.noted.allowing false).push (.scalar style text) with
    cursor := ⟨rest, reading.cursor.place.along count⟩ }

theorem cursor_noted (reading : Reading) : reading.noted.cursor = reading.cursor := by
  rw [noted]
  split <;> rfl

theorem expire_of_optional
    {start : Option KeyStart} (hoptional : ∀ key ∈ start, key.required = false) (place : Place) :
    expire place start = some (start.filter (reaches · place)) := by
  cases start with
  | none => rfl
  | some key =>
    have hkey : key.required = false := hoptional key rfl
    rw [expire, Option.filter_some, hkey]
    cases reaches key place <;> rfl

theorem mapM_expire_of_optional
    {outer : List (Option KeyStart)}
    (houter : ∀ start ∈ outer, ∀ key ∈ start, key.required = false) (place : Place) :
    outer.mapM (expire place) = some (outer.map (·.filter (reaches · place))) := by
  induction outer with
  | nil => rfl
  | cons start outer ih =>
    obtain ⟨hstart, houter⟩ := List.forall_mem_cons.mp houter
    rw [List.mapM_cons, expire_of_optional hstart, ih houter]
    rfl

namespace Within

variable {reading : Reading} {depth : Nat} {tokens : List Token} {rest : List Char}

theorem expireKeys_eq (hr : reading.Within depth tokens rest) :
    reading.expireKeys = some reading.expired := by
  rw [expireKeys, expire_of_optional hr.optional, mapM_expire_of_optional hr.outer_optional]
  rfl

theorem expired (hr : reading.Within depth tokens rest) :
    reading.expired.Within depth tokens rest where
  rest_eq := hr.rest_eq
  column_pos := hr.column_pos
  tokens_eq := hr.tokens_eq
  columns_eq := hr.columns_eq
  depth_eq := (List.length_map _).trans hr.depth_eq
  optional := fun key hkey => hr.optional key (Option.mem_filter_iff.mp hkey).1
  outer_optional := by
    intro start hstart key hkey
    obtain ⟨start', hmem, rfl⟩ := List.mem_map.mp hstart
    exact hr.outer_optional start' hmem key (Option.mem_filter_iff.mp hkey).1

theorem inFlow_eq (hr : reading.Within (depth + 1) tokens rest) : reading.inFlow = true := by
  have hdepth := hr.depth_eq
  rw [inFlow]
  cases houter : reading.outer with
  | nil =>
    rw [houter] at hdepth
    cases hdepth
  | cons start outer => rfl

/-- Nothing is passed over before a token. -/
theorem skip_eq
    {c : Char} (hr : reading.Within depth tokens (c :: rest)) (hc : startsToken c = true) :
    reading.skip = some reading.expired := by
  obtain ⟨hbreak, hspace, htab, hcomment⟩ :
      isBreak c = false ∧ c ≠ ' ' ∧ c ≠ '\t' ∧ c ≠ '#' := by
    simpa [startsToken, and_assoc] using hc
  have hcolumn : reading.cursor.place.column ≠ 0 := Nat.ne_of_gt hr.column_pos
  have hskip :
      skipFrom reading.inFlow reading.keys false reading.cursor.place (c :: rest) =
        (⟨c :: rest, reading.cursor.place⟩, reading.keys) := by
    rw [skipFrom]
    simp [hbreak, hspace, htab, hcomment, hcolumn]
  have hcursor : (⟨c :: rest, reading.cursor.place⟩ : Cursor) = reading.cursor := by
    rw [← hr.rest_eq]
  rw [skip, hr.rest_eq, hskip, hcursor]
  exact hr.expireKeys_eq

/-- A reading goes on with its next token. -/
theorem finishes_of_readToken
    {c : Char} {next : Reading} {result : List Token}
    (hr : reading.Within (depth + 1) tokens (c :: rest)) (hc : startsToken c = true)
    (hread : reading.expired.readToken = some next)
    (hless : next.cursor.rest.length ≤ rest.length) (hnext : next.Finishes result) :
    reading.Finishes result := by
  intro steps hsteps
  rw [hr.rest_eq, List.length_cons] at hsteps
  obtain _ | steps := steps
  · cases hsteps
  · have hdedent (column : Nat) : reading.expired.dedent column = reading.expired := by
      rw [dedent, hr.expired.inFlow_eq]
      rfl
    have hmore : reading.expired.cursor.rest.isEmpty = false := by
      rw [hr.expired.rest_eq]
      rfl
    have hless' : next.cursor.rest.length < steps := by omega
    rw [finish, hr.skip_eq hc]
    simp only [Option.bind_eq_bind, Option.bind_some, hmore, hdedent, hread, Bool.false_eq_true,
      if_false]
    exact hnext steps hless'

theorem dropKey_eq (hr : reading.Within depth tokens rest) :
    reading.dropKey = some { reading with keyStart := none } := by
  obtain ⟨cursor, columns, keyStart, outer, keys, array⟩ := reading
  cases keyStart with
  | none => rfl
  | some key =>
    have hkey : key.required = false := hr.optional key rfl
    simp only [dropKey, hkey, Bool.false_eq_true, if_false]

theorem noteKey_eq (hr : reading.Within depth tokens rest) :
    reading.noteKey = some reading.noted := by
  rw [noteKey, noted, hr.dropKey_eq]
  cases reading.keys with
  | false => rfl
  | true => simp [hr.columns_eq]

theorem noted_within (hr : reading.Within depth tokens rest) :
    reading.noted.Within depth tokens rest := by
  rw [noted]
  split
  · exact { hr with
      optional := by
        rintro key ⟨⟩
        rfl }
  · exact hr

/-- Inside brackets and braces the first character of a token says what to read. -/
theorem readToken_eq {c : Char} (hr : reading.Within (depth + 1) tokens (c :: rest)) :
    reading.readToken =
      if c = '[' then reading.readOpening .openBracket
      else if c = '\x7b' then reading.readOpening .openBrace
      else if c = ']' then reading.readClosing .closeBracket
      else if c = '\x7d' then reading.readClosing .closeBrace
      else if c = ',' then reading.readComma
      else if c = '-' && startsBlank rest then reading.readItem
      else if c = '?' then reading.readKey
      else if c = ':' then reading.readValue
      else if c = '*' then reading.readName .reference
      else if c = '&' then reading.readName .anchor
      else if c = '!' then reading.readTag
      else if c = '\'' then reading.readQuoted false
      else if c = '"' then reading.readQuoted true
      else if startsPlain true (c :: rest) then reading.readPlain
      else none := by
  have hcolumn : reading.cursor.place.column ≠ 0 := Nat.ne_of_gt hr.column_pos
  simp only [readToken, hr.rest_eq, hr.inFlow_eq, hcolumn, isDocumentMark_eq_false hr.column_pos,
    decide_false, Bool.false_and, Bool.false_eq_true, if_false, List.head?_cons, Bool.true_or,
    Bool.and_true, Bool.not_true, Bool.and_false, Option.some.injEq, decide_eq_true_eq]

/-- A token of one character. -/
theorem push_along
    {c : Char} (hr : reading.Within depth tokens (c :: rest)) (keys : Bool) (token : Token) :
    (((reading.allowing keys).push token).along 1).Within depth (tokens ++ [token]) rest where
  rest_eq := by
    change reading.cursor.rest.drop 1 = rest
    rw [hr.rest_eq]
    rfl
  column_pos := Nat.add_pos_left hr.column_pos 1
  tokens_eq := by
    change (reading.tokens.push token).toList = _
    rw [Array.toList_push, hr.tokens_eq]
  columns_eq := hr.columns_eq
  depth_eq := hr.depth_eq
  optional := hr.optional
  outer_optional := hr.outer_optional

/-- Brackets and braces open a new level, on which a key may begin. -/
theorem finishes_opening
    {c : Char} {mark : Token} {result : List Token}
    (hmark : c = '[' ∧ mark = .openBracket ∨ c = '\x7b' ∧ mark = .openBrace)
    (hr : reading.Within (depth + 1) tokens (c :: rest))
    (hnext : ∀ next : Reading, next.Within (depth + 2) (tokens ++ [mark]) rest →
      next.keys = true → next.Finishes result) :
    reading.Finishes result := by
  have hc : startsToken c = true := by
    obtain ⟨rfl, -⟩ | ⟨rfl, -⟩ := hmark <;> rfl
  have hread : reading.expired.readToken = reading.expired.readOpening mark := by
    rw [hr.expired.readToken_eq]
    obtain ⟨rfl, rfl⟩ | ⟨rfl, rfl⟩ := hmark <;> rfl
  have hnoted := hr.expired.noted_within
  have hopened :
      { reading.expired.noted with
        keyStart := none
        outer := reading.expired.noted.keyStart :: reading.expired.noted.outer }.Within
        (depth + 2) tokens (c :: rest) :=
    { hnoted with
      depth_eq := congrArg (· + 1) hnoted.depth_eq
      optional := nofun
      outer_optional := List.forall_mem_cons.mpr ⟨hnoted.optional, hnoted.outer_optional⟩ }
  rw [readOpening, hr.expired.noteKey_eq] at hread
  have hwithin := hopened.push_along true mark
  exact hr.finishes_of_readToken hc hread (Nat.le_of_eq (congrArg _ hwithin.rest_eq))
    (hnext _ hwithin rfl)

/-- A closing bracket or brace ends its level. -/
theorem finishes_closing
    {c : Char} {mark : Token} {result : List Token}
    (hmark : c = ']' ∧ mark = .closeBracket ∨ c = '\x7d' ∧ mark = .closeBrace)
    (hr : reading.Within (depth + 1) tokens (c :: rest))
    (hnext : ∀ next : Reading, next.Within depth (tokens ++ [mark]) rest → next.Finishes result) :
    reading.Finishes result := by
  have hc : startsToken c = true := by
    obtain ⟨rfl, -⟩ | ⟨rfl, -⟩ := hmark <;> rfl
  have hread : reading.expired.readToken = reading.expired.readClosing mark := by
    rw [hr.expired.readToken_eq]
    obtain ⟨rfl, rfl⟩ | ⟨rfl, rfl⟩ := hmark <;> rfl
  have hexpired := hr.expired
  obtain ⟨start, outer, houter⟩ : ∃ start outer, reading.expired.outer = start :: outer := by
    exact List.exists_cons_of_length_eq_add_one hexpired.depth_eq
  have hoptional := hexpired.outer_optional
  rw [houter, List.forall_mem_cons] at hoptional
  have hclosed :
      { reading.expired with keyStart := start, outer := outer }.Within depth tokens (c :: rest) :=
    { hexpired with
      depth_eq := Nat.succ.inj ((congrArg List.length houter).symm.trans hexpired.depth_eq)
      optional := hoptional.1
      outer_optional := hoptional.2 }
  rw [readClosing, hexpired.dropKey_eq] at hread
  simp only [Option.bind_eq_bind, Option.bind_some, houter] at hread
  have hwithin := hclosed.push_along false mark
  exact hr.finishes_of_readToken hc hread (Nat.le_of_eq (congrArg _ hwithin.rest_eq))
    (hnext _ hwithin)

/-- After a comma a key may begin. -/
theorem finishes_comma
    {result : List Token} (hr : reading.Within (depth + 1) tokens (',' :: rest))
    (hnext : ∀ next : Reading, next.Within (depth + 1) (tokens ++ [.comma]) rest →
      next.keys = true → next.Finishes result) :
    reading.Finishes result := by
  have hread : reading.expired.readToken = reading.expired.readComma := by
    rw [hr.expired.readToken_eq]
    rfl
  have hdropped :
      { reading.expired with keyStart := none }.Within (depth + 1) tokens (',' :: rest) :=
    { hr.expired with optional := nofun }
  rw [readComma, hr.expired.dropKey_eq] at hread
  have hwithin := hdropped.push_along true .comma
  exact hr.finishes_of_readToken rfl hread (Nat.le_of_eq (congrArg _ hwithin.rest_eq))
    (hnext _ hwithin rfl)

theorem withScalar_within
    (hr : reading.Within depth tokens rest) (style : ScalarStyle) (text : List Char) (count : Nat)
    (after : List Char) :
    (reading.withScalar style text count after).Within depth (tokens ++ [.scalar style text])
      after :=
  let hnoted := hr.noted_within
  { rest_eq := rfl
    column_pos := Nat.add_pos_left hr.column_pos count
    tokens_eq := by
      change (reading.noted.tokens.push _).toList = _
      rw [Array.toList_push, hnoted.tokens_eq]
    columns_eq := hnoted.columns_eq
    depth_eq := hnoted.depth_eq
    optional := hnoted.optional
    outer_optional := hnoted.outer_optional }

theorem readToken_writtenText
    {text : String} (hr : reading.Within (depth + 1) tokens (writtenText text ++ rest)) :
    reading.readToken =
      some (reading.withScalar .quoted text.toList (writtenText text).length rest) := by
  have hplace : 0 < (reading.cursor.place.along 1).column := Nat.add_pos_right _ Nat.one_pos
  have hquoted :=
    doubleQuotedFrom_quotedChars text.toList [] [] hplace rest
  have hchars : writtenText text ++ rest = '"' :: (quotedChars text.toList ++ '"' :: rest) := by
    simp [writtenText]
  have hcursor :
      reading.cursor.along 1 =
        ⟨quotedChars text.toList ++ '"' :: rest, reading.cursor.place.along 1⟩ := by
    rw [Cursor.along, hr.rest_eq, hchars]
    rfl
  have hlength : (writtenText text).length = 1 + ((quotedChars text.toList).length + 1) := by
    simp [writtenText, Nat.add_comm]
  rw [hchars] at hr
  have hread : reading.readToken = reading.readQuoted true := by
    rw [hr.readToken_eq]
    rfl
  rw [hread, readQuoted, hr.noteKey_eq]
  simp only [Option.bind_eq_bind, Option.bind_some, cursor_noted, hcursor, if_true]
  rw [Gap.none, hquoted, Place.along_along, ← hlength]
  rfl

theorem readToken_word
    {word : List Char} (hword : ∀ c ∈ word, c.isAlphanum = true) (hne : word ≠ []) {next : Char}
    (hnext : isFlowIndicator next = true)
    (hr : reading.Within (depth + 1) tokens (word ++ next :: rest)) :
    reading.readToken =
      some (reading.withScalar .plain word word.length (next :: rest)) := by
  obtain ⟨c, cs, rfl⟩ := List.exists_cons_of_ne_nil hne
  have hc : c.isAlphanum = true := hword c List.mem_cons_self
  have hother (d : Char) (hd : d.isAlphanum = false) : c ≠ d := ne_of_test hc hd
  have hread : reading.readToken = reading.readPlain := by
    rw [List.cons_append] at hr
    rw [hr.readToken_eq]
    simp [hother, startsPlain, startsBlank, isBlank, isBreak]
  rw [hread, readPlain, hr.noteKey_eq]
  simp only [Option.bind_eq_bind, Option.bind_some, cursor_noted, hr.rest_eq]
  have hflow : reading.noted.inFlow = true := hr.noted_within.inFlow_eq
  rw [hflow, plainFrom_word hword hnext]
  rfl

theorem finishes_writtenText
    {text : String} {result : List Token}
    (hr : reading.Within (depth + 1) tokens (writtenText text ++ rest))
    (hnext : ∀ next : Reading,
      next.Within (depth + 1) (tokens ++ [.scalar .quoted text.toList]) rest →
        next.Finishes result) :
    reading.Finishes result := by
  have hless : rest.length ≤ (quotedChars text.toList ++ ['"'] ++ rest).length := by
    rw [List.length_append]
    exact Nat.le_add_left _ _
  exact finishes_of_readToken (c := '"') hr rfl hr.expired.readToken_writtenText hless
    (hnext _ (hr.expired.withScalar_within _ _ _ _))

theorem finishes_word
    {word : List Char} {next : Char} {result : List Token}
    (hword : ∀ c ∈ word, c.isAlphanum = true) (hne : word ≠ [])
    (hindicator : isFlowIndicator next = true)
    (hr : reading.Within (depth + 1) tokens (word ++ next :: rest))
    (hnext : ∀ after : Reading,
      after.Within (depth + 1) (tokens ++ [.scalar .plain word]) (next :: rest) →
        after.Finishes result) :
    reading.Finishes result := by
  obtain ⟨c, cs, rfl⟩ := List.exists_cons_of_ne_nil hne
  have hc : c.isAlphanum = true := hword c List.mem_cons_self
  have hother (d : Char) (hd : d.isAlphanum = false) : c ≠ d := ne_of_test hc hd
  have hstarts : startsToken c = true := by
    simp [startsToken, isBreak, hother]
  have hless : (next :: rest).length ≤ (cs ++ next :: rest).length := by
    rw [List.length_append]
    exact Nat.le_add_left _ _
  exact finishes_of_readToken (c := c) hr hstarts
    (hr.expired.readToken_word hword hne hindicator) hless
    (hnext _ (hr.expired.withScalar_within _ _ _ _))

theorem toList_insertIdxIfInBounds {α : Type} (array : Array α) (position : Nat) (value : α) :
    (array.insertIdxIfInBounds position value).toList = array.toList.insertIdx position value := by
  obtain ⟨list⟩ := array
  rw [List.insertIdxIfInBounds_toArray]

theorem insertIdx_length_append {α : Type} (front back : List α) (value : α) :
    (front ++ back).insertIdx front.length value = front ++ value :: back := by
  induction front with
  | nil => rfl
  | cons first front ih => exact congrArg (first :: ·) ih

/-- The colon after a key shows that it is one. -/
theorem finishes_colon
    {key : KeyStart} {text : List Token} {result : List Token}
    (hr : reading.Within (depth + 1) (tokens ++ text) (':' :: rest))
    (hstart : reading.keyStart = some key) (hposition : key.position = tokens.length)
    (hreaches : reaches key reading.cursor.place = true)
    (hnext : ∀ next : Reading,
      next.Within (depth + 1) (tokens ++ (.key :: text ++ [.value])) rest →
        next.Finishes result) :
    reading.Finishes result := by
  have hread : reading.expired.readToken = reading.expired.readValue := by
    rw [hr.expired.readToken_eq]
    rfl
  have hexpired : reading.expired.keyStart = some key := by
    change reading.keyStart.filter _ = _
    rw [hstart, Option.filter_some, if_pos hreaches]
  let keyed : Reading :=
    { reading.expired with
      keyStart := none
      tokens := reading.expired.tokens.insertIdxIfInBounds key.position .key }
  have hkeyed : keyed.Within (depth + 1) (tokens ++ .key :: text) (':' :: rest) :=
    { hr.expired with
      tokens_eq := by
        rw [toList_insertIdxIfInBounds, hr.expired.tokens_eq, hposition, insertIdx_length_append]
      optional := nofun }
  have hindent : keyed.indent key.place.column key.position .mappingStart = keyed := by
    rw [indent, hkeyed.inFlow_eq]
    rfl
  rw [readValue, hexpired] at hread
  change reading.expired.readToken =
    some ((((keyed.indent key.place.column key.position .mappingStart).allowing false).push
      .value).along 1) at hread
  rw [hindent] at hread
  have hwithin := hkeyed.push_along false .value
  rw [List.append_assoc] at hwithin
  exact hr.finishes_of_readToken rfl hread (Nat.le_of_eq (congrArg _ hwithin.rest_eq))
    (hnext _ hwithin)

/-- A key and its colon. The key must not be too long. -/
theorem finishes_key
    {key : String} {result : List Token} (hshort : (writtenText key).length ≤ 1024)
    (hr : reading.Within (depth + 1) tokens (writtenText key ++ ':' :: rest))
    (hkeys : reading.keys = true)
    (hnext : ∀ next : Reading,
      next.Within (depth + 1) (tokens ++ [.key, .scalar .quoted key.toList, .value]) rest →
        next.Finishes result) :
    reading.Finishes result := by
  have hless : (':' :: rest).length ≤ (quotedChars key.toList ++ ['"'] ++ ':' :: rest).length := by
    rw [List.length_append]
    exact Nat.le_add_left _ _
  have hkeys' : reading.expired.keys = true := hkeys
  have hnoted :
      reading.expired.noted.keyStart =
        some ⟨false, reading.expired.tokens.size, reading.cursor.place⟩ := by
    rw [noted, if_pos hkeys']
    rfl
  have hposition : reading.expired.tokens.size = tokens.length := by
    rw [← hr.expired.tokens_eq, Array.length_toList]
  refine finishes_of_readToken (c := '"') hr rfl hr.expired.readToken_writtenText hless ?_
  refine finishes_colon (hr.expired.withScalar_within _ _ _ _) hnoted hposition ?_ hnext
  simp [reaches, withScalar, Reading.expired, Place.along, hshort]

end Within

end Reading

end InfobaseGateway.Yaml
