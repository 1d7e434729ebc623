import ClassTaint.Proofs.Yaml.Rule.Reduced
import ClassTaint.Proofs.Yaml.Token.Nested
import ClassTaint.Yaml.Node.Reader

namespace ClassTaint.Yaml

/-! The nodes of a mapping of words under one name. Nodes are numbered as they are
met: the outer mapping, the name, the inner mapping, and then keys and values. -/

/-- Words that are written plainly are texts. -/
def ReadsWords (rules : List Rule) : Prop :=
  ∀ word, IsWord word → resolve rules word = .text

/-- None of the rules that are kept is about texts that start with a letter. -/
theorem readsWords_reducedRules : ReadsWords reducedRules := by
  intro word plain
  obtain ⟨first, rest, rfl, alpha⟩ := plain.start
  apply resolve_of_unasked
  have starts : reducedRules.all
      (fun rule => rule.starts.all fun other => !other.isAlpha) = true := by decide
  intro rule member asked
  have others := List.all_eq_true.mp (List.all_eq_true.mp starts rule member) first asked
  rw [alpha] at others
  cases others

def pairNodes (place : Nat) : List (String × String) → List (Node × Node)
  | [] => []
  | pair :: rest =>
      (.scalar place .text pair.1, .scalar (place + 1) .text pair.2) ::
        pairNodes (place + 2) rest

def nestedDocument (name : String) (pairs : List (String × String)) : Document where
  root := .mapping 0 .mapping
    [(.scalar 1 .text name, .mapping 2 .mapping (pairNodes 3 pairs))]
  anchored := []
  size := 3 + 2 * pairs.length

section Reader

variable {conventions : Conventions} {setting : Setting} {emptyBefore : List Token}
variable {rest : List Token} {ending : Fault} {nodes depth : Nat}
variable {declared : List String} {anchored : List (String × Node)}

theorem readNode_word {word : String} (reads : ReadsWords conventions.rules)
    (plain : IsWord word.toList) (bound : Nat) :
    readNode conventions setting (bound + 2)
        ⟨.scalar word true :: rest, ending, nodes, depth, declared, anchored⟩ =
      .ok (.scalar nodes .text word,
        ⟨rest, ending, nodes + 1, depth, declared, anchored⟩) := by
  simp [readNode, readProperties, Conventions.stated, readContent, Conventions.scalar,
    Conventions.scalarTag, reads _ plain, Progress.go, Progress.declare, Progress.record,
    bind, Except.bind, pure, Except.pure]

theorem readNode_mapping {pairs : List (Node × Node)} {last : Progress} {bound : Nat}
    (outside : setting ≠ .flow) (shallow : depth < deepestNesting)
    (read : readBlockPairs conventions bound
      ⟨rest, ending, nodes + 1, depth + 1, declared, anchored⟩ = .ok (pairs, last)) :
    readNode conventions setting (bound + 2)
        ⟨.blockMappingStart :: rest, ending, nodes, depth, declared, anchored⟩ =
      .ok (.mapping nodes .mapping pairs, last.leave) := by
  simp [readNode, readProperties, Conventions.stated, readContent, outside,
    Progress.enter, shallow, read, StatedTag.orElse, Progress.go, Progress.declare,
    Progress.record, bind, Except.bind, pure, Except.pure]

theorem readEntry_of_head {token : Token} (present : token ∉ emptyBefore) (bound : Nat) :
    readEntry conventions setting emptyBefore (bound + 1)
        ⟨token :: rest, ending, nodes, depth, declared, anchored⟩ =
      readNode conventions setting bound
        ⟨token :: rest, ending, nodes, depth, declared, anchored⟩ := by
  simp [readEntry, present]

theorem readBlockPairs_word {key : String} {value : Node} {pairs : List (Node × Node)}
    {token : Token} {middle last : Progress} {bound : Nat}
    (reads : ReadsWords conventions.rules) (plain : IsWord key.toList)
    (present : token ∉ [Token.key, .value, .blockEnd])
    (here : readNode conventions .mappingPart (bound + 1)
      ⟨token :: rest, ending, nodes + 1, depth, declared, anchored⟩ = .ok (value, middle))
    (later : readBlockPairs conventions (bound + 3) middle = .ok (pairs, last)) :
    readBlockPairs conventions (bound + 4)
        ⟨.key :: .scalar key true :: .value :: token :: rest, ending, nodes, depth,
          declared, anchored⟩ =
      .ok ((.scalar nodes .text key, value) :: pairs, last) := by
  have first : readEntry conventions .mappingPart [.key, .value, .blockEnd] (bound + 3)
      ⟨.scalar key true :: .value :: token :: rest, ending, nodes, depth, declared,
        anchored⟩ = .ok (.scalar nodes .text key,
          ⟨.value :: token :: rest, ending, nodes + 1, depth, declared, anchored⟩) := by
    rw [readEntry_of_head (by simp), readNode_word reads plain]
  have second : readValue conventions .mappingPart [.key, .value, .blockEnd] (bound + 3)
      ⟨.value :: token :: rest, ending, nodes + 1, depth, declared, anchored⟩ =
        .ok (value, middle) := by
    rw [← here, ← readEntry_of_head present]
    rfl
  rw [readBlockPairs]
  simp only [Progress.go, first, second, later, bind, Except.bind, pure, Except.pure]

theorem readBlockPairs_pairs {pairs : List (String × String)}
    (reads : ReadsWords conventions.rules) (words : ∀ pair ∈ pairs, IsWordPair pair)
    (bound : Nat) :
    readBlockPairs conventions (bound + pairs.length + 4)
        ⟨pairs.flatMap pairTokens ++ .blockEnd :: rest, ending, nodes, depth, declared,
          anchored⟩ =
      .ok (pairNodes nodes pairs,
        ⟨rest, ending, nodes + 2 * pairs.length, depth, declared, anchored⟩) := by
  -- A pair takes up to four levels of the bound, and those behind it start one lower.
  induction pairs generalizing nodes with
  | nil => rfl
  | cons pair others induction =>
      obtain ⟨word, more⟩ := List.forall_mem_cons.mp words
      have count : nodes + 2 + 2 * others.length = nodes + 2 * (pair :: others).length := by
        rw [List.length_cons]
        omega
      have later : readBlockPairs conventions (bound + others.length + 4)
          ⟨others.flatMap pairTokens ++ .blockEnd :: rest, ending, nodes + 2, depth,
            declared, anchored⟩ = .ok (pairNodes (nodes + 2) others,
              ⟨rest, ending, nodes + 2 * (pair :: others).length, depth, declared,
                anchored⟩) := by
        rw [← count]
        exact induction more
      simp only [List.flatMap_cons, pairTokens, List.cons_append, List.nil_append]
      exact readBlockPairs_word reads word.key.plain (by simp)
        (readNode_word reads word.value (bound + others.length)) later

theorem readNode_nested {name : String} {pairs : List (String × String)}
    (reads : ReadsWords conventions.rules) (named : IsWordKey name)
    (words : ∀ pair ∈ pairs, IsWordPair pair) (bound : Nat) :
    readNode conventions .block (bound + pairs.length + 11)
        (.start (nestedTokens name pairs) ending) =
      .ok ((nestedDocument name pairs).root,
        ⟨[.streamEnd], ending, (nestedDocument name pairs).size, 0, [], []⟩) := by
  have inner : readNode conventions .mappingPart (bound + pairs.length + 6)
      ⟨.blockMappingStart ::
        (pairs.flatMap pairTokens ++ .blockEnd :: [.blockEnd, .streamEnd]), ending, 2, 1,
        [], []⟩ = .ok (.mapping 2 .mapping (pairNodes 3 pairs),
          ⟨[.blockEnd, .streamEnd], ending, 3 + 2 * pairs.length, 1, [], []⟩) :=
    readNode_mapping (by decide) (by decide) (readBlockPairs_pairs reads words bound)
  have outer := readBlockPairs_word reads named.plain (by simp) inner (by rfl)
  exact readNode_mapping (by decide) (by decide) outer

end Reader

theorem length_nestedTokens (name : String) (pairs : List (String × String)) :
    pairs.length + 8 ≤ (nestedTokens name pairs).length := by
  have inner : pairs.length ≤ (pairs.flatMap pairTokens).length := by
    induction pairs with
    | nil => exact Nat.zero_le _
    | cons pair others induction =>
        simp only [List.flatMap_cons, pairTokens, List.length_append, List.length_cons]
        omega
  simp only [nestedTokens, List.length_append, List.length_cons, List.length_nil]
  omega

theorem Document.ofTokens_nested {rules : List Rule} {name : String}
    {pairs : List (String × String)} (reads : ReadsWords rules) (named : IsWordKey name)
    (words : ∀ pair ∈ pairs, IsWordPair pair) (ending : Fault) :
    ofTokens rules ⟨nestedTokens name pairs, ending⟩ =
      .ok (some (nestedDocument name pairs)) := by
  have root : readRoot rules ⟨nestedTokens name pairs, ending⟩ =
      .ok ((nestedDocument name pairs).root,
        ⟨[.streamEnd], ending, (nestedDocument name pairs).size, 0, [], []⟩) := by
    have enough : pairs.length + 11 ≤ 4 * (nestedTokens name pairs).length + 4 := by
      have long := length_nestedTokens name pairs
      omega
    obtain ⟨bound, same⟩ := Nat.exists_eq_add_of_le' enough
    rw [readRoot, same]
    exact readNode_nested reads named words bound
  change readRoot rules ⟨nestedTokens name pairs, ending⟩ >>= _ = _
  rw [root]
  rfl

end ClassTaint.Yaml
