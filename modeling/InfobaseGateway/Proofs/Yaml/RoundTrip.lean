import InfobaseGateway.Proofs.Yaml.Parsing

/-!
# Reading what was written

The document for a dictionary is read as this dictionary, with all texts, numbers and lists in it.
-/

namespace InfobaseGateway.Yaml

open Config

/-! ## Numbers -/

theorem digit?_of_isDigit {c : Char} (hdigit : c.isDigit = true) :
    Number.digit? 10 c = some (c.toNat - '0'.toNat) := by
  have hbound : c.toNat - '0'.toNat < 10 := by
    have hrange : 48 ≤ c.toNat ∧ c.toNat ≤ 57 := Char.isDigit_iff_toNat.mp hdigit
    change c.toNat - 48 < 10
    omega
  rw [Number.digit?, if_pos hdigit]
  exact Option.filter_some_pos (decide_eq_true hbound)

/-- The number that decimal digits write. -/
theorem ofDigits?_eq_ofDigitChars
    {digits : List Char} (hne : digits ≠ []) (hdigits : ∀ c ∈ digits, c.isDigit = true) :
    Number.ofDigits? 10 digits = some (Nat.ofDigitChars 10 digits 0) := by
  have hfold (start : Nat) :
      digits.foldlM (fun value c => (Number.digit? 10 c).map (10 * value + ·)) start =
        some (Nat.ofDigitChars 10 digits start) := by
    clear hne
    induction digits generalizing start with
    | nil => rfl
    | cons c digits ih =>
      obtain ⟨hc, hdigits⟩ := List.forall_mem_cons.mp hdigits
      rw [List.foldlM_cons, digit?_of_isDigit hc]
      exact ih hdigits _
  rw [Number.ofDigits?]
  · exact hfold 0
  · exact hne

/-- A number that is not zero does not begin with a zero. -/
theorem head?_toDigits_ne_zero {n : Nat} (hn : 0 < n) : (Nat.toDigits 10 n).head? ≠ some '0' := by
  induction n using Nat.strongRecOn with
  | ind n ih =>
    by_cases hsmall : n < 10
    · have hdigits : ∀ digit < 10, 0 < digit → [digit.digitChar].head? ≠ some '0' := by decide
      rw [Nat.toDigits_of_lt_base hsmall]
      exact hdigits n hsmall hn
    · have hless : n / 10 < n := Nat.div_lt_self hn (by decide)
      have hpos : 0 < n / 10 := Nat.div_pos (Nat.not_lt.mp hsmall) (by decide)
      have hhead := ih (n / 10) hless hpos
      obtain ⟨c, digits, hdigits⟩ :=
        List.exists_cons_of_ne_nil (Nat.toDigits_ne_nil (b := 10) (n := n / 10))
      rw [hdigits] at hhead
      rw [Nat.toDigits_of_base_le (by decide) (Nat.not_lt.mp hsmall), hdigits]
      exact hhead

theorem isDigit_toDigits (n : Nat) : ∀ c ∈ Nat.toDigits 10 n, c.isDigit = true := fun _ hc =>
  Nat.isDigit_of_mem_toDigits (by decide) (by decide) hc

/-- Digits have no sign. -/
theorem unsigned_of_isDigit {digits : List Char} (hdigits : ∀ c ∈ digits, c.isDigit = true) :
    Number.unsigned digits = digits := by
  rw [Number.unsigned]
  · rintro rest rfl
    exact absurd (hdigits '+' List.mem_cons_self) (by decide)
  · rintro rest rfl
    exact absurd (hdigits '-' List.mem_cons_self) (by decide)

theorem isZeroLed_toDigits (n : Nat) : Scalar.isZeroLed (Nat.toDigits 10 n) = false := by
  rw [Scalar.isZeroLed, unsigned_of_isDigit (isDigit_toDigits n)]
  split
  · rename_i digit digits heq
    by_cases hn : n = 0
    · rw [hn] at heq
      cases heq
    · exact absurd (congrArg List.head? heq) (head?_toDigits_ne_zero (Nat.pos_of_ne_zero hn))
  · rfl

/-- Decimal digits do not begin with the mark of another base. -/
theorem magnitude?_toDigits (n : Nat) : Scalar.magnitude? (Nat.toDigits 10 n) = some n := by
  have hdigits := isDigit_toDigits n
  have hmark {mark : Char} (hmark : mark.isDigit = false) (rest : List Char) :
      Nat.toDigits 10 n ≠ '0' :: mark :: rest := by
    intro heq
    rw [heq] at hdigits
    exact absurd (hdigits mark (by simp)) (by simp [hmark])
  rw [Scalar.magnitude?]
  · rw [isZeroLed_toDigits, ofDigits?_eq_ofDigitChars Nat.toDigits_ne_nil hdigits,
      Nat.ofDigitChars_toDigits (by decide) (by decide)]
    rfl
  all_goals exact hmark rfl

theorem integer?_toDigits {n : Nat} (hn : n < Nat.pow 2 128) :
    Scalar.integer? (Nat.toDigits 10 n) = some (n : Int) := by
  have hdigits := isDigit_toDigits n
  have hsign {sign : Char} (hsign : sign.isDigit = false) (rest : List Char) :
      Nat.toDigits 10 n ≠ sign :: rest := by
    intro heq
    rw [heq] at hdigits
    exact absurd (hdigits sign List.mem_cons_self) (by simp [hsign])
  rw [Scalar.integer?]
  · rw [magnitude?_toDigits, Option.filter_some, if_pos (decide_eq_true hn)]
    rfl
  all_goals exact hsign rfl

/-- A number that fits is read from its decimal digits. -/
theorem plainTree_toDigits {n : Nat} (hn : n < Nat.pow 2 128) :
    Scalar.plainTree (Nat.toDigits 10 n) = .integer n := by
  have hdigits := isDigit_toDigits n
  have hempty : (Nat.toDigits 10 n).isEmpty = false := by
    simp [Nat.toDigits_ne_nil]
  have hword {word : String} (hword : word.toList.all Char.isDigit = false) :
      String.ofList (Nat.toDigits 10 n) ≠ word := by
    rintro rfl
    rw [String.toList_ofList, List.all_eq_true.mpr hdigits] at hword
    cases hword
  have hnull : Scalar.isNullWord (Nat.toDigits 10 n) = false := by
    rw [Scalar.isNullWord, decide_eq_false_iff_not]
    simp [hword]
  have hflag : Scalar.flag? (Nat.toDigits 10 n) = none := by
    rw [Scalar.flag?]
    split
    case h_7 => rfl
    all_goals
      rename_i heq
      exact absurd heq (hword (by decide))
  rw [Scalar.plainTree, hempty, hnull, hflag, integer?_toDigits hn]
  rfl

/-! ## Dictionaries -/

/-- An entry with a new key comes after the others. -/
theorem put_of_not_mem
    {key : String} {entries : ConfigEntries} (hkey : key ∉ entries.map Prod.fst)
    (value : ConfigTree) :
    ConfigTree.put key value entries = entries ++ [(key, value)] := by
  induction entries with
  | nil => rfl
  | cons entry entries ih =>
    rw [List.map_cons, List.mem_cons, not_or] at hkey
    obtain ⟨hentry, hentries⟩ := hkey
    rw [ConfigTree.put, if_neg (Ne.symm hentry), ih hentries]
    rfl

/-- Entries with different keys are a dictionary as they are. -/
theorem ofEntries_of_nodup
    {entries : ConfigEntries} (hdistinct : (entries.map Prod.fst).Nodup) :
    ConfigTree.ofEntries entries = .dict entries := by
  have hfold (front back : ConfigEntries) (hdistinct : ((front ++ back).map Prod.fst).Nodup) :
      back.foldl (fun all entry => ConfigTree.put entry.1 entry.2 all) front = front ++ back := by
    induction back generalizing front with
    | nil => exact (List.append_nil front).symm
    | cons entry back ih =>
      have hkey : entry.1 ∉ front.map Prod.fst := by
        rw [List.map_append, List.nodup_append] at hdistinct
        intro hmem
        exact hdistinct.2.2 _ hmem _ List.mem_cons_self rfl
      have hsplit : front ++ entry :: back = (front ++ [entry]) ++ back := by simp
      rw [List.foldl_cons, put_of_not_mem hkey, hsplit]
      rw [hsplit] at hdistinct
      exact ih _ hdistinct
  rw [ConfigTree.ofEntries, hfold [] entries hdistinct]
  rfl

namespace Document

theorem ofAnnotated_of_keysWritable
    {entries : ConfigEntries} (hkeys : KeysWritable (entries.map Prod.fst)) :
    ofAnnotated entries = .dict entries := by
  have hordinary : ∀ entry ∈ entries, entry.1 ≠ valueKey ∧ entry.1 ≠ provenanceKey :=
    fun entry hentry => hkeys.ordinary _ (List.mem_map_of_mem hentry)
  have hvalue : entries.reverse.lookup valueKey = none := by
    rw [List.lookup_eq_none_iff]
    intro entry hentry
    exact bne_iff_ne.mpr (Ne.symm (hordinary entry (List.mem_reverse.mp hentry)).1)
  have hfilter : entries.filter (fun entry => entry.1 ≠ provenanceKey) = entries := by
    rw [List.filter_eq_self]
    intro entry hentry
    exact decide_eq_true (hordinary entry hentry).2
  rw [ofAnnotated, hvalue, hfilter]
  exact ofEntries_of_nodup hkeys.distinct

/-! ## Values -/

/-- The value of a node is a tree, wherever the node stands and however many references have been
followed. -/
def Means (document : Document) (depth : Nat) (node : Node) (tree : ConfigTree) : Prop :=
  ∀ count : Nat, (document.tree depth node).run count = some (tree, count)

theorem means_scalar
    (document : Document) (depth : Nat) (style : ScalarStyle) (text : List Char) :
    document.Means depth (.scalar none style text) (Scalar.untagged style text) := by
  intro count
  cases depth <;> rfl

theorem mapM_itemNodes
    {document : Document} {depth : Nat} {items : List ConfigTree}
    (hitems : ∀ item ∈ items, document.Means depth (treeNode item) item) (count : Nat) :
    ((itemNodes items).mapM (document.tree depth)).run count = some (items, count) := by
  induction items with
  | nil => rfl
  | cons item items ih =>
    obtain ⟨hitem, hitems⟩ := List.forall_mem_cons.mp hitems
    rw [itemNodes, List.mapM_cons, StateT.run_bind, hitem count]
    simp [ih hitems]

theorem mapM_entryNodes
    {entries : ConfigEntries} {read : Node × Node → Evaluation (String × ConfigTree)}
    (hread : ∀ entry ∈ entries, ∀ count,
      (read (.scalar none .quoted entry.1.toList, treeNode entry.2)).run count =
        some (entry, count))
    (count : Nat) :
    ((entryNodes entries).mapM read).run count = some (entries, count) := by
  induction entries with
  | nil => rfl
  | cons entry entries ih =>
    obtain ⟨hentry, hentries⟩ := List.forall_mem_cons.mp hread
    rw [entryNodes, List.mapM_cons, StateT.run_bind, hentry count]
    simp [ih hentries]

/-- Every tree that can be written is what its node means. -/
theorem means_of_writable
    (document : Document) {depth : Nat} {tree : ConfigTree} (htree : Writable depth tree) :
    document.Means depth (treeNode tree) tree := by
  induction htree with
  | null depth => exact means_scalar document depth .plain _
  | flag depth value => cases value <;> exact means_scalar document depth .plain _
  | @integer depth n bound =>
    have hmeans := means_scalar document depth .plain (Nat.toDigits 10 n)
    have hvalue : Scalar.untagged .plain (Nat.toDigits 10 n) = .integer n :=
      plainTree_toDigits bound
    rw [hvalue] at hmeans
    rw [treeNode, toList_toString_natCast]
    exact hmeans
  | text depth value =>
    have hmeans := means_scalar document depth .quoted value.toList
    have hvalue : Scalar.untagged .quoted value.toList = .text value := by
      rw [Scalar.untagged, if_neg nofun, String.ofList_toList]
    rw [hvalue] at hmeans
    exact hmeans
  | @list depth items _ ih =>
    intro count
    rw [treeNode, Document.tree]
    simp only [follow, pure_bind]
    rw [StateT.run_bind, mapM_itemNodes ih count]
    rfl
  | @dict depth entries keys _ ih =>
    intro count
    rw [treeNode, Document.tree]
    simp only [follow, pure_bind]
    rw [StateT.run_bind, mapM_entryNodes ?entry count]
    case entry =>
      intro entry hentry count
      have hvalue := ih entry.2 (List.mem_map_of_mem hentry) count
      have hname := (keys.ordinary entry.1 (List.mem_map_of_mem hentry)).2
      simp [key, follow, hvalue, hname]
    · rw [Option.bind_eq_bind, Option.bind_some, ofAnnotated_of_keysWritable keys]
      rfl

end Document

/-- The document for a dictionary is read as the dictionary. -/
theorem read?_write
    {entries : ConfigEntries} (htree : Writable Document.nestingLimit (.dict entries)) :
    read? (write (.dict entries)) = some (.dict entries) := by
  obtain ⟨size, hparsed⟩ := Document.ofTokens?_treeTokens htree
  have htokens : tokens? (write (.dict entries)).toList = some (treeTokens (.dict entries)) := by
    rw [write, String.toList_ofList]
    exact tokens?_written htree
  rw [read?, Document.read?, htokens]
  simp only [Option.bind_eq_bind, Option.bind_some, hparsed]
  cases htree with
  | dict keys values =>
    have hmeans (document : Document) :
        ∀ entry ∈ entries,
          document.Means (Document.nestingLimit - 1) (treeNode entry.2) entry.2 :=
      fun entry hentry =>
        document.means_of_writable (values entry.2 (List.mem_map_of_mem hentry))
    rw [Document.settings?]
    simp only
    rw [Document.mapM_entryNodes ?entry 0]
    case entry =>
      intro entry hentry count
      simp [Document.key, Document.follow, hmeans _ entry hentry count]
    · exact congrArg some (ofEntries_of_nodup keys.distinct)

example :
    write (.dict [("sessions", .list [.text "a\tb", .integer 7, .null])]) =
      "\x7b\"sessions\":[\"a\\U00000009b\",7,null]\x7d" := by
  decide +kernel

end InfobaseGateway.Yaml
