import InfobaseGateway.Proofs.Classification
import InfobaseGateway.Proofs.Request.Validity

/-!
# How a taken name is classified

The service rejects a name that is taken with a text that quotes the name. Names hold no blanks, so
of the phrases of earlier rules only the single word `unauthorized` can come about through a name.
A name with it, in any case, turns the rejection into one of another kind; every other name leaves
it what it is.
-/

namespace InfobaseGateway

namespace Text

/-! ## Words in lower case -/

/-- A blank, or what else separates words for the rule of the capital sigma. -/
def Separates (c : Char) : Prop :=
  caseTransparent.contains c = false ∧ cased.contains c = false

theorem separates_space : Separates ' ' := by
  constructor
  · decide +kernel
  · decide +kernel

theorem meetsCased_append {c : Char} (hc : Separates c) (text more : List Char) :
    meetsCased (text ++ c :: more) = meetsCased text := by
  induction text with
  | nil => simp [meetsCased, List.dropWhile, hc.1, hc.2]
  | cons first text ih =>
    simp only [meetsCased, List.cons_append, List.dropWhile_cons] at ih ⊢
    by_cases hfirst : caseTransparent.contains first = true
    · rw [if_pos hfirst, if_pos hfirst]
      exact ih
    · rw [if_neg hfirst, if_neg hfirst]

/-- A word between two separators is lower-cased as if it stood alone. `front` holds what comes
before the first separator, nearest first, and `seen` the part of the word that is already read. -/
theorem lowercaseAfter_word
    {c d : Char} (hc : Separates c) (hd : Separates d) (front back seen word : List Char) :
    lowercaseAfter (seen ++ c :: front) (word ++ d :: back) =
      lowercaseAfter seen word ++
        lowercaseAfter (word.reverse ++ (seen ++ c :: front)) (d :: back) := by
  induction word generalizing seen with
  | nil => rfl
  | cons first word ih =>
    have hrest := ih (first :: seen)
    have hsigma :
        lowerSigma (seen ++ c :: front) (word ++ d :: back) = lowerSigma seen word := by
      rw [lowerSigma, lowerSigma, meetsCased_append hc, meetsCased_append hd]
    rw [List.cons_append] at hrest
    rw [List.cons_append, lowercaseAfter, lowercaseAfter, hsigma, hrest, List.append_assoc,
      List.reverse_cons, List.append_assoc]
    rfl

/-- Small characters at the beginning stay. -/
theorem lowercaseAfter_append_of_isSmall
    (before : List Char) {word : List Char} (hsmall : word.all isSmall = true)
    (rest : List Char) :
    lowercaseAfter before (word ++ rest) =
      word ++ lowercaseAfter (word.reverse ++ before) rest := by
  induction word generalizing before with
  | nil => rfl
  | cons c word ih =>
    rw [List.all_cons, Bool.and_eq_true] at hsmall
    have hsigma : c ≠ 'Σ' := by
      rintro rfl
      simp [isSmall] at hsmall
    rw [List.cons_append, lowercaseAfter, if_neg hsigma, lower_of_isSmall hsmall.1,
      ih (c :: before) hsmall.2, List.reverse_cons, List.append_assoc]
    rfl

/-- A word in the middle of a text of small characters is lower-cased as if it stood alone. -/
theorem lowercase_between
    {front back : String} (hfront : front.toList.all isSmall = true)
    (hback : back.toList.all isSmall = true) (word : String) :
    lowercase (front ++ " " ++ word ++ (" " ++ back)) =
      front.toList ++ ' ' :: (lowercase word ++ ' ' :: back.toList) := by
  have htext :
      (front ++ " " ++ word ++ (" " ++ back)).toList =
        front.toList ++ ' ' :: (word.toList ++ ' ' :: back.toList) := by
    simp [String.toList_append]
  have hspace : lower ' ' = [' '] := lower_of_isSmall rfl
  have hend : (' ' :: back.toList).all isSmall = true := by
    rw [List.all_cons, hback]
    rfl
  have hword := lowercaseAfter_word separates_space separates_space front.toList.reverse
    back.toList [] word.toList
  rw [List.nil_append] at hword
  rw [lowercase, htext, lowercaseAfter_append_of_isSmall [] hfront, List.append_nil,
    lowercaseAfter, if_neg (by decide), hspace, List.singleton_append, hword,
    lowercaseAfter_of_isSmall _ hend]
  rfl

/-- A number that is no code point stands for the null character. -/
theorem toNat_ofNat_cases (n : Nat) : (Char.ofNat n).toNat = n ∨ (Char.ofNat n).toNat = 0 := by
  by_cases hvalid : n.isValidChar
  · exact .inl (congrArg Char.toNat (dif_pos hvalid))
  · exact .inr (congrArg Char.toNat (dif_neg hvalid))

/-- No character but the blank has a blank in its lower-case form. -/
theorem eq_space_of_mem_lower {c : Char} (hmem : ' ' ∈ lower c) : c = ' ' := by
  have htable : ∀ run ∈ capitals, (0x20 : Int) < run.1 + run.2.2.2 := by decide +kernel
  unfold lower at hmem
  by_cases hdotted : c.toNat = 0x130
  · rw [if_pos hdotted] at hmem
    simp at hmem
  · rw [if_neg hdotted, List.mem_singleton] at hmem
    cases hsmall : smallOf? c with
    | none =>
      rw [hsmall] at hmem
      exact hmem.symm
    | some small =>
      rw [hsmall] at hmem
      obtain ⟨⟨first, last, step, distance⟩, hfind, rfl⟩ := Option.map_eq_some_iff.mp hsmall
      have hrun := htable _ (List.mem_of_find?_eq_some hfind)
      have hrange := List.find?_some hfind
      simp only [Bool.and_eq_true, decide_eq_true_eq] at hrange hrun
      have hcode : 0x20 = (Char.ofNat ((c.toNat : Int) + distance).toNat).toNat :=
        congrArg Char.toNat hmem
      rcases toNat_ofNat_cases ((c.toNat : Int) + distance).toNat with hsame | hzero
      · omega
      · omega

theorem not_mem_lowercaseAfter
    (before : List Char) {text : List Char} (hspace : ' ' ∉ text) :
    ' ' ∉ lowercaseAfter before text := by
  induction text generalizing before with
  | nil => exact hspace
  | cons c text ih =>
    rw [lowercaseAfter, List.mem_append]
    rintro (hfirst | hrest)
    · by_cases hsigma : c = 'Σ'
      · rw [if_pos hsigma, List.mem_singleton] at hfirst
        unfold lowerSigma at hfirst
        split at hfirst
        · cases hfirst
        · cases hfirst
      · rw [if_neg hsigma] at hfirst
        exact hspace (eq_space_of_mem_lower hfirst ▸ List.mem_cons_self)
    · exact ih (c :: before) (fun hmem => hspace (List.mem_cons_of_mem c hmem)) hrest

/-! ## Occurrence in a text of words -/

theorem occursIn_iff_infix (part text : List Char) :
    occursIn part text = true ↔ part <:+: text := by
  induction text with
  | nil => simp [occursIn]
  | cons c text ih => simp [occursIn, ih, List.infix_cons_iff]

/-- A single word occurs in a text exactly if it occurs before or after a blank. -/
theorem occursIn_words
    {part : List Char} (hnonempty : part ≠ []) (hspace : ' ' ∉ part) (word rest : List Char) :
    occursIn part (word ++ ' ' :: rest) = (occursIn part word || occursIn part rest) := by
  obtain ⟨first, part, rfl⟩ := List.exists_cons_of_ne_nil hnonempty
  have hfirst : first ≠ ' ' := fun h => hspace (h ▸ List.mem_cons_self)
  have hprefix (part word : List Char) (hspace : ' ' ∉ part) :
      part.isPrefixOf (word ++ ' ' :: rest) = part.isPrefixOf word := by
    induction word generalizing part with
    | nil =>
      cases part with
      | nil => rfl
      | cons d part =>
        have hd : d ≠ ' ' := fun h => hspace (h ▸ List.mem_cons_self)
        simp [List.isPrefixOf, hd]
    | cons c word ih =>
      cases part with
      | nil => rfl
      | cons d part =>
        have hpart : ' ' ∉ part := fun h => hspace (List.mem_cons_of_mem d h)
        simp only [List.cons_append, List.isPrefixOf, ih part hpart]
  induction word with
  | nil => simp [occursIn, List.isPrefixOf, hfirst]
  | cons c word ih =>
    rw [List.cons_append, occursIn, occursIn, ← List.cons_append, hprefix _ _ hspace, ih,
      Bool.or_assoc]

/-- A blank with its two neighbours occurs where a word ends, or after that. -/
theorem occursIn_neighbours
    {x y : Char} (hx : x ≠ ' ') {word rest : List Char} (hspace : ' ' ∉ word)
    (hother : word.getLast? ≠ some x ∨ rest.head? ≠ some y) :
    occursIn [x, ' ', y] (word ++ ' ' :: rest) = occursIn [x, ' ', y] rest := by
  induction word with
  | nil => simp [occursIn, List.isPrefixOf, hx]
  | cons c word ih =>
    have hrest : ' ' ∉ word := fun h => hspace (List.mem_cons_of_mem c h)
    cases word with
    | nil =>
      have hstart : [x, ' ', y].isPrefixOf (c :: ' ' :: rest) = false := by
        rcases hother with hlast | hhead
        · have hc : x ≠ c := fun h => hlast (congrArg some h.symm)
          simp [List.isPrefixOf, hc]
        · cases rest with
          | nil => simp [List.isPrefixOf]
          | cons d rest =>
            have hd : y ≠ d := fun h => hhead (congrArg some h.symm)
            simp [List.isPrefixOf, hd]
      have hblank : [x, ' ', y].isPrefixOf (' ' :: rest) = false := by
        simp [List.isPrefixOf, hx]
      simp only [List.cons_append, List.nil_append, occursIn, hstart, hblank, Bool.false_or]
    | cons d word =>
      have hd : ' ' ≠ d := fun h => hrest (h ▸ List.mem_cons_self)
      have hlast : (d :: word).getLast? ≠ some x ∨ rest.head? ≠ some y := by
        simpa using hother
      rw [← ih hrest hlast, List.cons_append, occursIn]
      simp [List.isPrefixOf, hd]

end Text

/-! ## The rejection of a taken name -/

theorem space_not_mem_of_isName {name : String} (hname : IsName name) : ' ' ∉ name.toList := by
  intro hmem
  have hspace : isNameChar ' ' = false := by decide +kernel
  rw [hname.alphabet ' ' hmem] at hspace
  cases hspace

namespace Rejection

variable {name : String}

theorem lowercase_nameTaken (name : String) :
    Text.lowercase (nameTaken name).message =
      "infobase".toList ++ ' ' :: (Text.lowercase name ++ ' ' :: "already exists".toList) := by
  have hfront : "infobase".toList.all Text.isSmall = true := by decide
  have hback : "already exists".toList.all Text.isSmall = true := by decide
  exact Text.lowercase_between hfront hback name

/-- A phrase of two words does not come about through a name, unless its first word ends like
`infobase` or its second begins like `already exists`. -/
theorem occursIn_nameTaken_of_neighbours
    (hname : InfobaseGateway.IsName name) {x y : Char} {phrase : List Char}
    (hphrase : [x, ' ', y] <:+: phrase)
    (hneighbours : x ≠ ' ' ∧ x ≠ 'e' ∧ y ≠ 'a' ∧
      Text.occursIn [x, ' ', y] "already exists".toList = false) :
    Text.occursIn phrase (Text.lowercase (nameTaken name).message) = false := by
  obtain ⟨hspace, hx, hy, hend⟩ := hneighbours
  have hword : ' ' ∉ Text.lowercase name :=
    Text.not_mem_lowercaseAfter [] (space_not_mem_of_isName hname)
  have hblank :
      Text.occursIn [x, ' ', y] (Text.lowercase (nameTaken name).message) = false := by
    rw [lowercase_nameTaken, Text.occursIn_neighbours hspace (by decide) (.inl ?_),
      Text.occursIn_neighbours hspace hword (.inr ?_), hend]
    · simpa using Ne.symm hy
    · simpa using Ne.symm hx
  rw [Bool.eq_false_iff] at hblank ⊢
  intro hoccurs
  apply hblank
  rw [Text.occursIn_iff_infix] at hoccurs ⊢
  exact hphrase.trans hoccurs

theorem occursIn_unauthorized_nameTaken (name : String) :
    Text.occursIn "unauthorized".toList (Text.lowercase (nameTaken name).message) =
      Text.occursIn "unauthorized".toList (Text.lowercase name) := by
  have hfront : Text.occursIn "unauthorized".toList "infobase".toList = false := by decide
  have hback : Text.occursIn "unauthorized".toList "already exists".toList = false := by decide
  rw [lowercase_nameTaken, Text.occursIn_words (by decide) (by decide), hfront, Bool.false_or,
    Text.occursIn_words (by decide) (by decide), hback, Bool.or_false]

theorem occursIn_alreadyExists_nameTaken (name : String) :
    Text.occursIn "already exists".toList (Text.lowercase (nameTaken name).message) = true := by
  rw [lowercase_nameTaken, Text.occursIn_iff_infix]
  exact ⟨"infobase".toList ++ ' ' :: (Text.lowercase name ++ [' ']), [], by simp⟩

/-- The code that a caller reads who lost a name to somebody else. -/
def takenCode (name : String) : ErrorCode :=
  if Text.occursIn "unauthorized".toList (Text.lowercase name) then .permissionDenied
  else .alreadyExists

/-- A taken name is reported as what it is, unless the name has the word `unauthorized` in it. -/
theorem categoryOf_nameTaken (hname : InfobaseGateway.IsName name) :
    categoryOf (nameTaken name).message = takenCode name := by
  have hnotFound :
      Text.occursIn "not found".toList (Text.lowercase (nameTaken name).message) = false :=
    occursIn_nameTaken_of_neighbours hname (x := 't') (y := 'f')
      ⟨"no".toList, "ound".toList, by decide⟩ (by decide)
  have hnotExist :
      Text.occursIn "does not exist".toList (Text.lowercase (nameTaken name).message) = false :=
    occursIn_nameTaken_of_neighbours hname (x := 's') (y := 'n')
      ⟨"doe".toList, "ot exist".toList, by decide⟩ (by decide)
  have haccess :
      Text.occursIn "access denied".toList (Text.lowercase (nameTaken name).message) = false :=
    occursIn_nameTaken_of_neighbours hname (x := 's') (y := 'd')
      ⟨"acces".toList, "enied".toList, by decide⟩ (by decide)
  have hpermission :
      Text.occursIn "permission denied".toList (Text.lowercase (nameTaken name).message) =
        false :=
    occursIn_nameTaken_of_neighbours hname (x := 'n') (y := 'd')
      ⟨"permissio".toList, "enied".toList, by decide⟩ (by decide)
  -- the first two rules are left with the one word, and the third always applies
  simp only [categoryOf, takenCode, matchingRule?, classificationRules, List.find?,
    ClassificationRule.matchesText, List.any_cons, List.any_nil, hnotFound, hnotExist, haccess,
    hpermission, occursIn_unauthorized_nameTaken, occursIn_alreadyExists_nameTaken,
    Bool.or_false, Bool.true_or, Bool.false_or]
  cases Text.occursIn "unauthorized".toList (Text.lowercase name) with
  | true => rfl
  | false => rfl

end Rejection

end InfobaseGateway
