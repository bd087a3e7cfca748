import Mathlib.Data.String.Basic

/-!
# Parts of a text

Splitting a text at a character is splitting the list of its characters. So parts without a
separator in them are found again in the text that they make when they are joined by it.
-/

namespace InfobaseGateway.Text

open String (ofList utf8Len)

/-- The pass over a text that has come behind `before` and `part`. What it has read since the last
separator is `part`, and the parts found so far stand in reverse. -/
theorem splitOnAux_singleton
    (separator : Char) (before part rest : List Char) (found : List String) :
    String.splitOnAux (ofList (before ++ part ++ rest)) (.singleton separator) ⟨utf8Len before⟩
        ⟨utf8Len before + utf8Len part⟩ 0 found =
      found.reverse ++ (rest.splitOnPPrepend (· == separator) part.reverse).map ofList := by
  -- Positions are numbers of bytes, so each one is given by the characters that stand before it.
  have hseparator : String.Pos.Raw.get (.singleton separator) 0 = separator := by
    simpa using String.get_of_valid [] [separator]
  have hwidth : String.Pos.Raw.next (.singleton separator) 0 = ⟨separator.utf8Size⟩ := by
    simpa using String.next_of_valid [] separator []
  have hwhole : String.Pos.Raw.atEnd (.singleton separator) ⟨separator.utf8Size⟩ = true := by
    simp [String.Pos.Raw.atEnd]
  induction rest generalizing before part found with
  | nil =>
    have hend := (String.atEnd_of_valid (before ++ part) []).mpr rfl
    rw [String.utf8Len_append] at hend
    rw [String.splitOnAux, if_pos hend, String.extract_of_valid before part []]
    simp
  | cons c rest ih =>
    have hpart := String.extract_of_valid before part (c :: rest)
    have hend := mt (String.atEnd_of_valid (before ++ part) (c :: rest)).mp
      (List.cons_ne_nil c rest)
    have hget := String.get_of_valid (before ++ part) (c :: rest)
    have hnext := String.next_of_valid (before ++ part) c rest
    rw [String.utf8Len_append] at hend hget hnext
    have hback : (String.Pos.Raw.mk (utf8Len before + utf8Len part + c.utf8Size)).unoffsetBy
        ⟨c.utf8Size⟩ = ⟨utf8Len before + utf8Len part⟩ := by
      ext
      simp
    have hhere : (String.Pos.Raw.mk (utf8Len before + utf8Len part)).unoffsetBy 0 =
        ⟨utf8Len before + utf8Len part⟩ := by
      ext
      simp
    rw [String.splitOnAux, if_neg hend, hget, hseparator, hwidth, hhere, hnext, List.headD_cons,
      List.splitOnPPrepend_cons_eq_if]
    dsimp only
    rw [hwhole, if_pos rfl]
    split
    · next hc =>
      rw [beq_iff_eq] at hc
      subst hc
      rw [hback, hpart]
      simpa [-String.ofList_append, Nat.add_assoc] using
        ih (before ++ part ++ [c]) [] (ofList part :: found)
    · simpa [-String.ofList_append, Nat.add_assoc] using ih before (part ++ [c]) found

theorem splitOn_singleton (text : String) (separator : Char) :
    text.splitOn (.singleton separator) = (text.toList.splitOn separator).map ofList := by
  have hsome : ¬(String.singleton separator == "") = true := by simp
  rw [String.splitOn, if_neg hsome, List.splitOn_eq_splitOnP]
  simpa using splitOnAux_singleton separator [] [] text.toList []

/-- Joined parts are found again. -/
theorem splitOn_intercalate
    (separator : Char) {parts : List String} (hne : parts ≠ [])
    (hfree : ∀ part ∈ parts, separator ∉ part.toList) :
    ((String.singleton separator).intercalate parts).splitOn (.singleton separator) = parts := by
  have hsplit : ([separator].intercalate (parts.map String.toList)).splitOn separator =
      parts.map String.toList :=
    List.splitOn_intercalate separator (List.forall_mem_map.mpr hfree) (by simpa using hne)
  rw [splitOn_singleton, String.toList_intercalate, String.toList_singleton, hsplit, List.map_map]
  exact List.map_id'' (fun part => String.ofList_toList) parts

end InfobaseGateway.Text
