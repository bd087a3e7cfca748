import InfobaseGateway.Proofs.Yaml.Scanning

/-!
# Parsing a written document

The tokens of a tree make up its node: scalars, sequences and mappings without tags and names. Each
reader takes exactly the tokens of its own part, so readers in a row take those of their parts in a
row.
-/

namespace InfobaseGateway.Yaml

mutual

def treeNode : ConfigTree → Node
  | .null => .scalar none .plain "null".toList
  | .flag value => .scalar none .plain (toString value).toList
  | .integer value => .scalar none .plain (toString value).toList
  | .decimal spelling => .scalar none .plain spelling.toList
  | .text value => .scalar none .quoted value.toList
  | .character value => .scalar none .quoted [value]
  | .list items => .sequence none (itemNodes items)
  | .dict entries => .mapping none (entryNodes entries)

def itemNodes : List ConfigTree → List Node
  | [] => []
  | item :: items => treeNode item :: itemNodes items

def entryNodes : List (String × ConfigTree) → List (Node × Node)
  | [] => []
  | (key, value) :: entries =>
    (.scalar none .quoted key.toList, treeNode value) :: entryNodes entries

end

namespace NodeReader

variable {α β : Type}

/-- Some tokens make up a part of a document, whatever comes after them. -/
def Makes (read : NodeReader α) (tokens : List Token) (value : α) : Prop :=
  ∀ (source : NodeSource) (rest : List Token), source.tokens = tokens ++ rest →
    ∃ size, read.run source = some (value, { source with tokens := rest, size := size })

/-- The next token decides, and stays where it is. -/
def Sees (read : NodeReader α) (token : Token) (value : α) : Prop :=
  ∀ source : NodeSource, source.tokens.head? = some token → read.run source = some (value, source)

namespace Makes

theorem pure (value : α) : Makes (Pure.pure value) [] value := by
  intro source rest hsource
  refine ⟨source.size, ?_⟩
  have hrest : source.tokens = rest := hsource
  rw [← hrest]
  rfl

theorem bind
    {read : NodeReader α} {next : α → NodeReader β} {tokens more : List Token} {value : α}
    {result : β} (hread : Makes read tokens value) (hnext : Makes (next value) more result) :
    Makes (read >>= next) (tokens ++ more) result := by
  intro source rest hsource
  rw [List.append_assoc] at hsource
  obtain ⟨size, hrun⟩ := hread source (more ++ rest) hsource
  obtain ⟨size', hrun'⟩ := hnext { source with tokens := more ++ rest, size := size } rest rfl
  exact ⟨size', by rw [StateT.run_bind, hrun, Option.bind_eq_bind, Option.bind_some, hrun']⟩

theorem bind_sees
    {read : NodeReader α} {next : α → NodeReader β} {token : Token} {tokens : List Token}
    {value : α} {result : β} (hread : Sees read token value)
    (hnext : Makes (next value) (token :: tokens) result) :
    Makes (read >>= next) (token :: tokens) result := by
  intro source rest hsource
  obtain ⟨size, hrun⟩ := hnext source rest hsource
  have hhead : source.tokens.head? = some token := by
    rw [hsource]
    rfl
  exact ⟨size, by
    rw [StateT.run_bind, hread source hhead, Option.bind_eq_bind, Option.bind_some, hrun]⟩

theorem map
    {read : NodeReader α} {tokens : List Token} {value : α} (build : α → β)
    (hread : Makes read tokens value) : Makes (build <$> read) tokens (build value) := by
  intro source rest hsource
  obtain ⟨size, hrun⟩ := hread source rest hsource
  exact ⟨size, by rw [StateT.run_map, hrun]; rfl⟩

/-- A part that is put before the others. -/
theorem cons
    {read : NodeReader (List α)} {tokens : List Token} {values : List α} (value : α)
    (hread : Makes read tokens values) :
    Makes (read >>= fun values => Pure.pure (value :: values)) tokens (value :: values) := by
  have hbind :
      Makes (read >>= fun values => Pure.pure (value :: values)) (tokens ++ []) (value :: values) :=
    hread.bind (Makes.pure _)
  rw [List.append_nil] at hbind
  exact hbind

theorem advance (token : Token) : Makes NodeReader.advance [token] () := by
  intro source rest hsource
  refine ⟨source.size, ?_⟩
  have hrest : source.tokens.drop 1 = rest := by
    rw [hsource]
    rfl
  rw [← hrest]
  rfl

theorem grow (count : Nat) : Makes (NodeReader.grow count) [] () := by
  intro source rest hsource
  refine ⟨source.size + count, ?_⟩
  have hrest : source.tokens = rest := hsource
  rw [← hrest]
  rfl

end Makes

theorem sees_peek (token : Token) : Sees peek token (some token) := by
  intro source hhead
  rw [← hhead]
  rfl

theorem sees_isNext (token : Token) (tokens : List Token) :
    Sees (isNext tokens) token (decide (token ∈ tokens)) := by
  intro source hhead
  change some ((source.tokens.head?.any (· ∈ tokens)), source) = _
  rw [hhead]
  rfl

theorem sees_take {token other : Token} (hne : other ≠ token) : Sees (take token) other false := by
  intro source hhead
  have hnext : ¬source.tokens.head? = some token := by
    rw [hhead]
    exact fun hsame => hne (Option.some.inj hsame)
  simp [take, peek, hnext]

theorem makes_take (token : Token) : Makes (take token) [token] true := by
  refine Makes.bind_sees (sees_peek token) ?_
  simp only [if_true, decide_true]
  exact (Makes.advance token).bind (Makes.pure true)

theorem makes_expect (token : Token) : Makes (expect token) [token] () :=
  (makes_take token).bind (Makes.pure ())

theorem makes_enclosed
    {read : NodeReader α} {tokens : List Token} {value : α} (hread : Makes read tokens value) :
    Makes (enclosed read) tokens value := by
  have hinner :
      Makes (read >>= fun found => grow 1 >>= fun _ => Pure.pure found) (tokens ++ ([] ++ []))
        value :=
    hread.bind ((Makes.grow 1).bind (Makes.pure value))
  rw [List.append_nil, List.append_nil] at hinner
  exact (Makes.grow 1).bind hinner

/-! ## Nodes -/

/-- Whether a token begins a node that has no tag and no name. -/
def startsNode : Token → Bool
  | .scalar _ _ | .openBracket | .openBrace => true
  | _ => false

theorem makes_node
    {bound : Nat} {block level : Bool} {token : Token} {tokens : List Token} {value : Node}
    (hstart : startsNode token = true)
    (hcontent : Makes (content bound block level false none) (token :: tokens) value) :
    Makes (node (bound + 1) block level) (token :: tokens) value := by
  have hproperties : Sees Properties.read token ⟨none, none⟩ := by
    intro source hhead
    cases token with
    | scalar _ _ | openBracket | openBrace =>
      simp [Properties.read, Properties.extend, peek, hhead]
    | _ => cases hstart
  rw [node]
  refine Makes.bind_sees (sees_peek token) ?_
  cases token with
  | scalar _ _ | openBracket | openBrace =>
    refine Makes.bind_sees hproperties ?_
    intro source rest hsource
    obtain ⟨size, hrun⟩ := hcontent source rest hsource
    exact ⟨size, by simp [Properties.isSome, hrun]⟩
  | _ => cases hstart

theorem exists_treeTokens (tree : ConfigTree) :
    ∃ token tokens, treeTokens tree = token :: tokens ∧ startsNode token = true := by
  cases tree <;> exact ⟨_, _, rfl, rfl⟩

theorem makes_scalar
    {bound : Nat} (block level : Bool) {style : ScalarStyle} {text : List Char}
    (hbound : 2 ≤ bound) :
    Makes (node bound block level) [.scalar style text] (.scalar none style text) := by
  obtain ⟨bound, rfl⟩ := Nat.exists_eq_add_of_le' hbound
  refine makes_node rfl ?_
  rw [content]
  refine Makes.bind_sees (sees_peek _) ?_
  exact (Makes.advance _).bind ((Makes.grow 1).bind (Makes.pure _))

/-- A tree is read as its node. A bound of two for each token is enough, as no more than two readers
follow each other without a token in between. -/
def Parses (tree : ConfigTree) : Prop :=
  ∀ (bound : Nat) (block level : Bool), 2 * (treeTokens tree).length ≤ bound →
    Makes (node bound block level) (treeTokens tree) (treeNode tree)

/-- A part after a comma, if it is not the first. Neither it nor the comma is the closing mark. -/
theorem makes_separated
    {body : NodeReader (List α)} {close token : Token} {tokens : List Token} {values : List α}
    (first : Bool) (hcomma : Token.comma ≠ close) (hclose : token ≠ close)
    (hbody : Makes body (token :: tokens) values) :
    Makes (do
        if ← take close then return []
        if !first then
          expect .comma
          if ← take close then return []
        body)
      (commaTokens first ++ token :: tokens) values := by
  cases first with
  | true =>
    refine Makes.bind_sees (sees_take hclose) ?_
    exact hbody
  | false =>
    refine Makes.bind_sees (sees_take hcomma) ?_
    refine (makes_expect .comma).bind ?_
    refine Makes.bind_sees (sees_take hclose) ?_
    exact hbody

theorem makes_flowItems
    {items : List ConfigTree} (hitems : ∀ item ∈ items, Parses item) {bound : Nat} {first : Bool}
    (hbound : 2 * (itemsTokens first items).length ≤ bound) :
    Makes (flowItems bound first) (itemsTokens first items) (itemNodes items) := by
  induction items generalizing bound first with
  | nil =>
    obtain _ | bound := bound
    · cases hbound
    · exact (makes_take _).bind (Makes.pure _)
  | cons item items ih =>
    obtain ⟨hitem, hitems⟩ := List.forall_mem_cons.mp hitems
    obtain ⟨token, tokens, htokens, hstart⟩ := exists_treeTokens item
    have hnode : 1 ≤ (treeTokens item).length := by
      rw [htokens]
      exact Nat.le_add_left 1 _
    have hrest : 1 ≤ (itemsTokens false items).length := by
      cases items <;> simp [itemsTokens, commaTokens]
    rw [itemsTokens, List.length_append, List.length_append] at hbound
    obtain _ | bound := bound
    · omega
    have hitemNode := hitem bound false false (by omega)
    have hitemNodes : Makes (flowItems bound false) (itemsTokens false items) (itemNodes items) :=
      ih hitems (by omega)
    rw [itemsTokens, flowItems]
    rw [htokens] at hitemNode ⊢
    refine makes_separated first (by decide) (ne_of_test hstart rfl) ?_
    refine Makes.bind_sees (sees_take (ne_of_test hstart rfl)) ?_
    exact hitemNode.bind (hitemNodes.cons (treeNode item))

theorem makes_omittedBefore
    {read : NodeReader Node} {others : List Token} {token : Token} {tokens : List Token}
    {value : Node} (hstart : startsNode token = true)
    (hothers : ∀ other ∈ others, startsNode other = false)
    (hread : Makes read (token :: tokens) value) :
    Makes (omittedBefore others read) (token :: tokens) value := by
  have hnext : token ∉ others := fun hmem => ne_of_test hstart (hothers token hmem) rfl
  refine Makes.bind_sees (sees_isNext token others) ?_
  rw [decide_eq_false hnext]
  exact hread

theorem makes_flowEntries
    {entries : ConfigEntries} (hvalues : ∀ value ∈ entries.map Prod.snd, Parses value)
    {bound : Nat} {first : Bool} (hbound : 2 * (entriesTokens first entries).length ≤ bound) :
    Makes (flowEntries bound first) (entriesTokens first entries) (entryNodes entries) := by
  induction entries generalizing bound first with
  | nil =>
    obtain _ | bound := bound
    · cases hbound
    · exact (makes_take _).bind (Makes.pure _)
  | cons entry entries ih =>
    obtain ⟨key, value⟩ := entry
    obtain ⟨hvalue, hvalues⟩ := List.forall_mem_cons.mp hvalues
    obtain ⟨token, tokens, htokens, hstart⟩ := exists_treeTokens value
    have hkeyTokens : [Token.key, .scalar .quoted key.toList, .value].length = 3 := rfl
    rw [entriesTokens, List.length_append, List.length_append, List.length_append, hkeyTokens]
      at hbound
    obtain _ | bound := bound
    · omega
    have hkeyNode :
        Makes (omittedBefore [.value, .comma, .closeBrace] (node bound false false))
          [.scalar .quoted key.toList] (.scalar none .quoted key.toList) :=
      makes_omittedBefore rfl (by decide) (makes_scalar false false (by omega))
    have hvalueNode :
        Makes (omittedBefore [.comma, .closeBrace] (node bound false false)) (treeTokens value)
          (treeNode value) := by
      have hnode : Makes (node bound false false) (treeTokens value) (treeNode value) :=
        hvalue bound false false (by dsimp only; omega)
      rw [htokens] at hnode ⊢
      exact makes_omittedBefore hstart (by decide) hnode
    have hentryNodes :
        Makes (flowEntries bound false) (entriesTokens false entries) (entryNodes entries) :=
      ih hvalues (by omega)
    rw [entriesTokens, flowEntries]
    refine makes_separated first (by decide) (by decide) ?_
    refine (makes_take .key).bind ?_
    refine hkeyNode.bind ?_
    refine (makes_take .value).bind ?_
    refine hvalueNode.bind ?_
    exact hentryNodes.cons (.scalar none .quoted key.toList, treeNode value)

/-- Every tree that can be written is parsed from its tokens. -/
theorem parses_of_writable {depth : Nat} {tree : ConfigTree} (htree : Writable depth tree) :
    Parses tree := by
  induction htree with
  | null | flag _ value | integer _ bound | text _ value =>
    intro bound block level hbound
    exact makes_scalar block level hbound
  | @list _ items _ ih =>
    intro bound block level hbound
    rw [treeTokens, List.length_cons] at hbound
    obtain _ | _ | bound := bound
    · omega
    · omega
    refine makes_node rfl ?_
    rw [content]
    refine Makes.bind_sees (sees_peek _) ?_
    have hitems : Makes (flowItems bound true) (itemsTokens true items) (itemNodes items) :=
      makes_flowItems ih (by omega)
    exact (Makes.advance _).bind ((makes_enclosed hitems).map (Node.sequence none))
  | @dict _ entries _ _ ih =>
    intro bound block level hbound
    rw [treeTokens, List.length_cons] at hbound
    obtain _ | _ | bound := bound
    · omega
    · omega
    refine makes_node rfl ?_
    rw [content]
    refine Makes.bind_sees (sees_peek _) ?_
    have hentries :
        Makes (flowEntries bound true) (entriesTokens true entries) (entryNodes entries) :=
      makes_flowEntries ih (by omega)
    exact (Makes.advance _).bind ((makes_enclosed hentries).map (Node.mapping none))

end NodeReader

/-- The tokens of a dictionary are a document. -/
theorem Document.ofTokens?_treeTokens
    {depth : Nat} {entries : ConfigEntries} (htree : Writable depth (.dict entries)) :
    ∃ size, ofTokens? (treeTokens (.dict entries)) =
      some ⟨.mapping none (entryNodes entries), [], size⟩ := by
  let tokens := treeTokens (.dict entries)
  have hbound : 2 * tokens.length ≤ 4 * tokens.length + 4 := by omega
  obtain ⟨size, hrun⟩ :=
    NodeReader.parses_of_writable htree (4 * tokens.length + 4) true false hbound
      ⟨tokens, [], [], [], [], 0⟩ [] (List.append_nil _).symm
  refine ⟨size, ?_⟩
  have hcontent : ofContent? false [] tokens =
      some ⟨.mapping none (entryNodes entries), [], size⟩ := by
    rw [ofContent?]
    simp only [Bool.false_and, Bool.false_eq_true, if_false, hrun]
    rfl
  have hdirectives : directives? false [] tokens = some ([], tokens) := rfl
  rw [ofTokens?, hdirectives]
  simpa [tokens, treeTokens] using hcontent

end InfobaseGateway.Yaml
