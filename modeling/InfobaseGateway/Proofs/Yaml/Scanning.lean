import InfobaseGateway.Proofs.Yaml.Readings

/-!
# Scanning a written document

The document for a dictionary is scanned to the tokens of the dictionary: every part of a tree is
scanned to its own tokens, wherever it stands.
-/

namespace InfobaseGateway.Yaml

/-! ## The tokens of a tree -/

/-- The comma before an item that is not the first. -/
def commaTokens (first : Bool) : List Token :=
  if first then [] else [.comma]

mutual

def treeTokens : ConfigTree → List Token
  | .null => [.scalar .plain "null".toList]
  | .flag value => [.scalar .plain (toString value).toList]
  | .integer value => [.scalar .plain (toString value).toList]
  | .decimal spelling => [.scalar .plain spelling.toList]
  | .text value => [.scalar .quoted value.toList]
  | .character value => [.scalar .quoted [value]]
  | .list items => .openBracket :: itemsTokens true items
  | .dict entries => .openBrace :: entriesTokens true entries

/-- The tokens of list items and of the bracket after them. -/
def itemsTokens (first : Bool) : List ConfigTree → List Token
  | [] => [.closeBracket]
  | item :: items => commaTokens first ++ (treeTokens item ++ itemsTokens false items)

/-- The tokens of the entries of a dictionary and of the brace after them. -/
def entriesTokens (first : Bool) : List (String × ConfigTree) → List Token
  | [] => [.closeBrace]
  | (key, value) :: entries =>
    commaTokens first ++ ([.key, .scalar .quoted key.toList, .value] ++
      (treeTokens value ++ entriesTokens false entries))

end

namespace Reading

/-! ## Readings of trees -/

/-- A tree is scanned to its tokens wherever it stands inside of brackets or braces. -/
def Scans (tree : ConfigTree) : Prop :=
  ∀ (reading : Reading) (depth : Nat) (tokens : List Token) (next : Char) (rest : List Char)
    (result : List Token), isFlowIndicator next = true →
    reading.Within (depth + 1) tokens (written tree ++ next :: rest) →
    (∀ after : Reading, after.Within (depth + 1) (tokens ++ treeTokens tree) (next :: rest) →
      after.Finishes result) →
    reading.Finishes result

theorem scans_of_word
    {tree : ConfigTree} (hword : ∀ c ∈ written tree, c.isAlphanum = true) (hne : written tree ≠ [])
    (htokens : treeTokens tree = [.scalar .plain (written tree)]) :
    Scans tree := by
  intro reading depth tokens next rest result hnext hr hafter
  rw [htokens] at hafter
  exact hr.finishes_word hword hne hnext hafter

/-- A comma, if there is one. A key may begin after it. -/
theorem Within.finishes_commaBefore
    {reading : Reading} {depth : Nat} {tokens : List Token} {rest : List Char} {first : Bool}
    {result : List Token}
    (hr : reading.Within (depth + 1) tokens (comma first ++ rest))
    (hkeys : first = true → reading.keys = true)
    (hnext : ∀ next : Reading, next.Within (depth + 1) (tokens ++ commaTokens first) rest →
      next.keys = true → next.Finishes result) :
    reading.Finishes result := by
  cases first with
  | true =>
    rw [commaTokens, if_pos rfl, List.append_nil] at hnext
    exact hnext reading hr (hkeys rfl)
  | false => exact hr.finishes_comma hnext

theorem exists_writtenItems (items : List ConfigTree) (rest : List Char) :
    ∃ next rest', writtenItems false items ++ rest = next :: rest' ∧
      isFlowIndicator next = true := by
  cases items with
  | nil => exact ⟨']', rest, rfl, rfl⟩
  | cons item items =>
    exact ⟨',', written item ++ writtenItems false items ++ rest, rfl, rfl⟩

theorem finishes_writtenItems
    {items : List ConfigTree} (hitems : ∀ item ∈ items, Scans item) {first : Bool}
    {reading : Reading} {depth : Nat} {tokens : List Token} {rest : List Char}
    {result : List Token}
    (hr : reading.Within (depth + 1) tokens (writtenItems first items ++ rest))
    (hkeys : first = true → reading.keys = true)
    (hnext : ∀ next : Reading, next.Within depth (tokens ++ itemsTokens first items) rest →
      next.Finishes result) :
    reading.Finishes result := by
  induction items generalizing first reading tokens with
  | nil => exact Within.finishes_closing (.inl ⟨rfl, rfl⟩) hr hnext
  | cons item items ih =>
    obtain ⟨hitem, hitems⟩ := List.forall_mem_cons.mp hitems
    obtain ⟨next, rest', hrest, hindicator⟩ := exists_writtenItems items rest
    rw [writtenItems, List.append_assoc, List.append_assoc, hrest] at hr
    rw [itemsTokens, ← List.append_assoc, ← List.append_assoc] at hnext
    refine hr.finishes_commaBefore hkeys fun afterComma hcomma _ => ?_
    refine hitem afterComma depth _ next rest' result hindicator hcomma fun afterItem hr' => ?_
    rw [← hrest] at hr'
    exact ih hitems hr' (absurd · Bool.false_ne_true) hnext

theorem exists_writtenEntries (entries : ConfigEntries) (rest : List Char) :
    ∃ next rest', writtenEntries false entries ++ rest = next :: rest' ∧
      isFlowIndicator next = true := by
  cases entries with
  | nil => exact ⟨'\x7d', rest, rfl, rfl⟩
  | cons entry entries =>
    obtain ⟨key, value⟩ := entry
    exact ⟨',', writtenText key ++ ':' :: (written value ++ writtenEntries false entries) ++ rest,
      rfl, rfl⟩

theorem finishes_writtenEntries
    {entries : ConfigEntries} (hkeysShort : ∀ key ∈ entries.map Prod.fst,
      (writtenText key).length ≤ 1024)
    (hvalues : ∀ value ∈ entries.map Prod.snd, Scans value) {first : Bool}
    {reading : Reading} {depth : Nat} {tokens : List Token} {rest : List Char}
    {result : List Token}
    (hr : reading.Within (depth + 1) tokens (writtenEntries first entries ++ rest))
    (hkeys : first = true → reading.keys = true)
    (hnext : ∀ next : Reading, next.Within depth (tokens ++ entriesTokens first entries) rest →
      next.Finishes result) :
    reading.Finishes result := by
  induction entries generalizing first reading tokens with
  | nil => exact Within.finishes_closing (.inr ⟨rfl, rfl⟩) hr hnext
  | cons entry entries ih =>
    obtain ⟨key, value⟩ := entry
    obtain ⟨hkeyShort, hkeysShort⟩ := List.forall_mem_cons.mp hkeysShort
    obtain ⟨hvalue, hvalues⟩ := List.forall_mem_cons.mp hvalues
    obtain ⟨next, rest', hrest, hindicator⟩ := exists_writtenEntries entries rest
    rw [writtenEntries, List.append_assoc, List.append_assoc, List.cons_append, List.append_assoc,
      hrest] at hr
    rw [entriesTokens, ← List.append_assoc, ← List.append_assoc, ← List.append_assoc] at hnext
    refine hr.finishes_commaBefore hkeys fun afterComma hcomma hallowed => ?_
    refine hcomma.finishes_key hkeyShort hallowed fun afterKey hkey => ?_
    refine hvalue afterKey depth _ next rest' result hindicator hkey fun afterValue hr' => ?_
    rw [← hrest] at hr'
    exact ih hkeysShort hvalues hr' (absurd · Bool.false_ne_true) hnext

/-- Every tree that can be written is scanned to its tokens. -/
theorem scans_of_writable {height : Nat} {tree : ConfigTree} (htree : Writable height tree) :
    Scans tree := by
  induction htree with
  | null => exact scans_of_word (List.all_eq_true.mp rfl) nofun rfl
  | flag _ value => cases value <;> exact scans_of_word (List.all_eq_true.mp rfl) nofun rfl
  | @integer _ n bound =>
    have hwritten : written (.integer n) = Nat.toDigits 10 n := toList_toString_natCast n
    refine scans_of_word ?_ ?_ rfl
    · rw [hwritten]
      exact isAlphanum_toDigits n
    · rw [hwritten]
      exact Nat.toDigits_ne_nil
  | text _ value =>
    intro reading depth tokens next rest result _ hr hafter
    exact hr.finishes_writtenText hafter
  | list _ ih =>
    intro reading depth tokens next rest result _ hr hafter
    refine hr.finishes_opening (.inl ⟨rfl, rfl⟩) fun opened hopened hkeys => ?_
    refine finishes_writtenItems ih hopened (fun _ => hkeys) fun closed hclosed => ?_
    rw [List.append_assoc] at hclosed
    exact hafter closed hclosed
  | dict keys _ ih =>
    intro reading depth tokens next rest result _ hr hafter
    refine hr.finishes_opening (.inr ⟨rfl, rfl⟩) fun opened hopened hkeys => ?_
    refine finishes_writtenEntries keys.short ih hopened (fun _ => hkeys) fun closed hclosed => ?_
    rw [List.append_assoc] at hclosed
    exact hafter closed hclosed

/-- The brace that opens the document. -/
theorem finishes_start
    {rest : List Char} {result : List Token}
    (hnext : ∀ next : Reading, next.Within 1 [.openBrace] rest → next.keys = true →
      next.Finishes result) :
    (start ('\x7b' :: rest)).Finishes result := by
  let opened : Reading :=
    ⟨⟨rest, ⟨0, 1⟩⟩, [], none, [some ⟨false, 0, ⟨0, 0⟩⟩], true, #[.openBrace]⟩
  have hopened : opened.Within 1 [.openBrace] rest :=
    { rest_eq := rfl
      column_pos := Nat.one_pos
      tokens_eq := rfl
      columns_eq := rfl
      depth_eq := rfl
      optional := nofun
      outer_optional := by
        rintro start (_ | ⟨_, ⟨⟩⟩) key ⟨⟩
        rfl }
  intro steps hsteps
  obtain _ | steps := steps
  · cases hsteps
  · have hstep : finish (steps + 1) (start ('\x7b' :: rest)) = finish steps opened := by
      rfl
    rw [hstep]
    exact hnext opened hopened rfl steps (Nat.lt_of_succ_lt_succ hsteps)

/-- After the last brace there is nothing to read. -/
theorem Within.finishes_end
    {reading : Reading} {tokens : List Token} (hr : reading.Within 0 tokens []) :
    reading.Finishes tokens := by
  intro steps hsteps
  obtain _ | steps := steps
  · cases hsteps
  · have hskip : reading.skip = some reading.expired := by
      have hcursor : (⟨[], reading.cursor.place⟩ : Cursor) = reading.cursor := by
        rw [← hr.rest_eq]
      rw [skip, hr.rest_eq, skipFrom, hcursor]
      exact hr.expireKeys_eq
    have hdedent : reading.expired.dedentAll = reading.expired := by
      rw [dedentAll, hr.expired.columns_eq]
      split
      · rfl
      · rw [closeBlocks, ← hr.expired.columns_eq]
    have hend : reading.expired.cursor.rest.isEmpty = true := by
      rw [hr.expired.rest_eq]
      rfl
    rw [finish, hskip]
    simp only [Option.bind_eq_bind, Option.bind_some, hend, if_true, hdedent,
      hr.expired.dropKey_eq]
    exact congrArg some hr.tokens_eq

end Reading

theorem isAdmitted_of_isPrintable {c : Char} (hc : isPrintable c = true) : isAdmitted c = true := by
  rw [isPrintable] at hc
  simp [isAdmitted, hc]

theorem withLineFeeds_of_isPrintable
    {chars : List Char} (hchars : ∀ c ∈ chars, isPrintable c = true) :
    withLineFeeds chars = chars := by
  induction chars with
  | nil => rfl
  | cons c chars ih =>
    obtain ⟨hc, hchars⟩ := List.forall_mem_cons.mp hchars
    rw [withLineFeeds, ih hchars]
    · rintro rest rfl
      exact absurd hc (by decide)
    · exact ne_of_test hc rfl
    · exact ne_of_test hc rfl

/-- The document for a dictionary has the tokens of the dictionary. -/
theorem tokens?_written
    {depth : Nat} {entries : ConfigEntries} (htree : Writable depth (.dict entries)) :
    tokens? (written (.dict entries)) = some (treeTokens (.dict entries)) := by
  have hprintable := htree.isPrintable_written
  have hadmitted : (written (.dict entries)).all isAdmitted = true :=
    List.all_eq_true.mpr fun c hc => isAdmitted_of_isPrintable (hprintable c hc)
  have hfinishes :
      (Reading.start (written (.dict entries))).Finishes (treeTokens (.dict entries)) := by
    cases htree with
    | dict keys values =>
      have hscans : ∀ value ∈ entries.map Prod.snd, Reading.Scans value := fun value hvalue =>
        Reading.scans_of_writable (values value hvalue)
      refine Reading.finishes_start fun opened hopened hkeys => ?_
      rw [← List.append_nil (writtenEntries true entries)] at hopened
      exact Reading.finishes_writtenEntries keys.short hscans hopened (fun _ => hkeys)
        fun closed hclosed => hclosed.finishes_end
  rw [tokens?, if_pos hadmitted, withLineFeeds_of_isPrintable hprintable]
  exact hfinishes _ (Nat.lt_succ_self _)

end InfobaseGateway.Yaml
