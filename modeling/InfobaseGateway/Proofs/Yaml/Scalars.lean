import InfobaseGateway.Proofs.Yaml.Written

/-!
# Scanning written scalars

A word is scanned up to the comma, bracket or brace after it, and a text between double quotes up to
its quote. What is scanned is what was written.
-/

namespace InfobaseGateway.Yaml

/-- What a test tells apart is different. -/
theorem ne_of_test
    {α : Type} {test : α → Bool} {c d : α} (hc : test c = true) (hd : test d = false) :
    c ≠ d := by
  rintro rfl
  rw [hc] at hd
  cases hd

theorem isBreak_of_isPrintable {c : Char} (hc : isPrintable c = true) : isBreak c = false := by
  simp only [isBreak, Bool.or_eq_false_iff, decide_eq_false_iff_not]
  refine ⟨⟨?_, ?_⟩, ?_⟩
  all_goals
    rintro rfl
    exact absurd hc (by decide)

theorem Place.after_of_isPrintable {c : Char} (hc : isPrintable c = true) (place : Place) :
    place.after c = place.along 1 := by
  rw [Place.after, isBreak_of_isPrintable hc]
  rfl

theorem Place.along_along (place : Place) (n m : Nat) :
    (place.along n).along m = place.along (n + m) := by
  simp only [Place.along, Nat.add_assoc]

/-- Marks of documents stand at the start of a line only. -/
theorem isDocumentMark_eq_false {place : Place} (hcolumn : 0 < place.column) (text : List Char) :
    isDocumentMark place text = false := by
  simp [isDocumentMark, Nat.ne_of_gt hcolumn]

/-- A word without quotes ends before a flow indicator. -/
theorem plainFrom_word
    {word : List Char} (hword : ∀ c ∈ word, c.isAlphanum = true) {next : Char}
    (hnext : isFlowIndicator next = true) (least : Nat) (read : List Char) (place : Place)
    (rest : List Char) :
    plainFrom true least read Gap.none place (word ++ next :: rest) =
      some ⟨read.reverse ++ word, ⟨next :: rest, place.along word.length⟩, false⟩ := by
  induction word generalizing read place with
  | nil =>
    have hbreak : isBreak next = false ∧ isBlank next = false ∧ next ≠ ':' := by
      simp only [isFlowIndicator, Bool.or_eq_true, decide_eq_true_eq] at hnext
      obtain (((rfl | rfl) | rfl) | rfl) | rfl := hnext
      all_goals decide
    simp [plainFrom, hbreak, hnext, endsPlain, Gap.none, Gap.isOpen, Gap.crosses, Place.along]
  | cons c word ih =>
    obtain ⟨hc, hword⟩ := List.forall_mem_cons.mp hword
    have hprintable := isPrintable_of_isAlphanum hc
    have hblank : isBlank c = false := by
      simp [isBlank, ne_of_test hc (d := ' ') rfl, ne_of_test hc (d := '\t') rfl]
    have hcolon : c ≠ ':' := ne_of_test hc rfl
    have hindicator : isFlowIndicator c = false := by
      simp [isFlowIndicator, ne_of_test hc (d := ',') rfl,
        ne_of_test hc (d := '[') rfl, ne_of_test hc (d := ']') rfl,
        ne_of_test hc (d := '\x7b') rfl, ne_of_test hc (d := '\x7d') rfl]
    have hstep :
        plainFrom true least read Gap.none place (c :: (word ++ next :: rest)) =
          plainFrom true least (c :: read) Gap.none (place.along 1) (word ++ next :: rest) := by
      rw [plainFrom]
      simp [isBreak_of_isPrintable hprintable, hblank, hcolon, hindicator, endsPlain, Gap.none,
        Gap.isOpen, Gap.folded, Place.after_of_isPrintable hprintable]
    rw [List.cons_append, hstep, ih hword, List.reverse_cons, List.append_assoc,
      Place.along_along, List.length_cons, Nat.add_comm 1]
    rfl

/-- One written character is read as itself: it may be a blank, which counts only once there is
something after it. -/
theorem doubleQuotedFrom_writtenChar
    (c : Char) (read blanks : List Char) {place : Place} (hcolumn : 0 < place.column)
    (rest : List Char) :
    ∃ read' blanks', blanks' ++ read' = c :: (blanks ++ read) ∧
      doubleQuotedFrom read (.blanks blanks) place (writtenChar c ++ rest) =
        doubleQuotedFrom read' (.blanks blanks') (place.along (writtenChar c).length) rest := by
  cases hkept : isKept c with
  | false =>
    have hwritten : writtenChar c = '\\' :: 'U' :: hexDigits c.toNat := if_neg (by simp [hkept])
    have hchar := charOfHex?_hexDigits c
    refine ⟨c :: (blanks ++ read), [], rfl, ?_⟩
    rw [hwritten]
    simp only [hexDigits, List.map_cons, List.map_nil, List.cons_append, List.nil_append,
      doubleQuotedFrom] at hchar ⊢
    rw [hchar]
    rfl
  | true =>
    have hwritten : writtenChar c = [c] := if_pos hkept
    have hprintable := isPrintable_of_isKept hkept
    have hquote : c ≠ '"' := by
      rintro rfl
      cases hkept
    have hbackslash : c ≠ '\\' := by
      rintro rfl
      cases hkept
    have hstep :
        doubleQuotedFrom read (.blanks blanks) place (c :: rest) =
          if isBlank c then doubleQuotedFrom read (.blanks (c :: blanks)) (place.along 1) rest
          else doubleQuotedFrom (c :: (blanks ++ read)) (.blanks []) (place.along 1) rest := by
      rw [doubleQuotedFrom]
      · simp only [isDocumentMark_eq_false hcolumn, isBreak_of_isPrintable hprintable,
          Place.after_of_isPrintable hprintable, Bool.false_eq_true, if_false, Gap.addBlank,
          Gap.folded, Gap.none]
      · exact hquote
      all_goals
        intros
        contradiction
    rw [hwritten, List.singleton_append, hstep]
    cases hblank : isBlank c with
    | true => exact ⟨read, c :: blanks, rfl, rfl⟩
    | false => exact ⟨c :: (blanks ++ read), [], rfl, rfl⟩

/-- A text between double quotes is read as it was before it was written. -/
theorem doubleQuotedFrom_quotedChars
    (text read blanks : List Char) {place : Place} (hcolumn : 0 < place.column)
    (rest : List Char) :
    doubleQuotedFrom read (.blanks blanks) place (quotedChars text ++ '"' :: rest) =
      some ((blanks ++ read).reverse ++ text,
        ⟨rest, place.along ((quotedChars text).length + 1)⟩) := by
  induction text generalizing read blanks place with
  | nil => simp [quotedChars, doubleQuotedFrom, Gap.folded]
  | cons c text ih =>
    have hchars : quotedChars (c :: text) = writtenChar c ++ quotedChars text := rfl
    have hlater : 0 < (place.along (writtenChar c).length).column := Nat.add_pos_left hcolumn _
    obtain ⟨read', blanks', hread, hstep⟩ :=
      doubleQuotedFrom_writtenChar c read blanks hcolumn (quotedChars text ++ '"' :: rest)
    rw [hchars, List.append_assoc, hstep, ih read' blanks' hlater, hread, List.reverse_cons,
      List.append_assoc, Place.along_along, List.length_append, Nat.add_assoc]
    rfl

end InfobaseGateway.Yaml
