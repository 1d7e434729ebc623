import ClassTaint.Proofs.Table.Update
import ClassTaint.Proofs.Yaml.Node.Nested
import ClassTaint.Yaml.Text

namespace ClassTaint.Yaml

/-! The value of a text with a mapping of words under one name. Its keys are texts,
so that nothing is merged, and each of its two mappings is looked into once. -/

/-- No key is a merge key or a value mark. -/
def HasTextKeys (pairs : List (Node × Node)) : Prop :=
  ∀ pair ∈ pairs, ∃ place text, pair.1 = .scalar place .text text

section Keys

variable {document : Document} {pairs : List (Node × Node)} {place : Nat}

theorem splitAtMerge_of_textKeys (texts : HasTextKeys pairs) :
    splitAtMerge document pairs = none := by
  induction pairs with
  | nil => rfl
  | cons pair rest induction =>
      obtain ⟨here, later⟩ := List.forall_mem_cons.mp texts
      obtain ⟨key, value⟩ := pair
      obtain ⟨place, text, rfl⟩ := here
      simp [splitAtMerge, Document.target, Node.mark?, induction later]

theorem valueMarks_of_textKeys (texts : HasTextKeys pairs) :
    valueMarks document pairs = [] := by
  apply List.filterMap_eq_nil_iff.mpr
  intro pair member
  obtain ⟨place, text, same⟩ := texts pair member
  simp [same, Document.target, Node.mark?]

theorem mergedPairs_of_textKeys {tag : Tag} {survey : Survey} (texts : HasTextKeys pairs)
    (fresh : survey.revision.pairs.get? place = none) :
    document.mergedPairs (.mapping place tag pairs) survey =
      document.lookPairs pairs
        { survey with revision := survey.revision.setPairs place pairs } := by
  have written : survey.revision.pairsAt place pairs = pairs := by
    rw [Revision.pairsAt, fresh]
    rfl
  have kept : (survey.revision.setPairs place pairs).pairsAt place pairs = pairs := by
    simp [Revision.pairsAt, Revision.setPairs]
  have merged : Revision.merge document (document.size + 1) [] place pairs
      survey.revision = .ok (survey.revision.setPairs place pairs) := by
    rw [Revision.merge, written, splitAtMerge_of_textKeys texts]
    simp [valueMarks_of_textKeys texts, Revision.setPairs, pure, Except.pure]
  simp only [Document.mergedPairs, merged, bind, Except.bind, kept]

end Keys

section Looks

variable {document : Document} {survey : Survey} {place : Nat} {order : SetOrder}

theorem look_text (text : String) :
    document.look (.scalar place .text text) survey =
      .ok (.scalar (.text text), survey) := by
  simp [Document.look, Document.target, Revision.mark?, Node.mark?, Tag.collection?,
    Tag.hasScalars, Document.readScalar, scalarValue, bind, Except.bind, pure,
    Except.pure]

theorem look_mapping (pairs : List (Node × Node)) :
    document.look (.mapping place .mapping pairs) survey =
      .ok (.collection place,
        survey.meet ⟨place, .mapping, .mapping place .mapping pairs⟩) := by
  simp [Document.look, Document.target, Revision.mark?, Node.mark?, Tag.collection?]

theorem lookPairs_pairNodes (pairs : List (String × String)) :
    document.lookPairs (pairNodes place pairs) survey =
      .ok (pairs.map (Prod.map .text fun text => .scalar (.text text)), survey) := by
  induction pairs generalizing place with
  | nil => rfl
  | cons pair rest induction =>
      simp only [pairNodes, Document.lookPairs, look_text, induction, bind, Except.bind,
        pure, Except.pure]
      rfl

theorem hasTextKeys_pairNodes (pairs : List (String × String)) :
    HasTextKeys (pairNodes place pairs) := by
  induction pairs generalizing place with
  | nil => exact fun _ member => nomatch member
  | cons pair rest induction =>
      exact List.forall_mem_cons.mpr ⟨⟨place, pair.1, rfl⟩, induction⟩

theorem lookInto_of_textKeys {pairs : List (Node × Node)} {last : Survey} {tag : Tag}
    {entries : List (Value × Part)} (texts : HasTextKeys pairs)
    (fresh : survey.revision.pairs.get? place = none)
    (looked : document.lookPairs pairs
      { survey with revision := survey.revision.setPairs place pairs } =
        .ok (entries, last)) :
    document.lookInto order ⟨place, .mapping, .mapping place tag pairs⟩ survey =
      .ok { last with
        graph := last.graph.put place (.mapping (Table.ofEntries entries)) } := by
  simp only [Document.lookInto, mergedPairs_of_textKeys texts fresh, looked, bind,
    Except.bind, pure, Except.pure]

theorem lookIntoLevels_of_single {met : Met} {next : Survey} {bound : Nat}
    (single : survey.met = [met])
    (looked : document.lookInto order met { survey with met := [] } = .ok next) :
    document.lookIntoLevels order (bound + 1) survey =
      document.lookIntoLevels order bound next := by
  simp [Document.lookIntoLevels, single, looked, bind, Except.bind, pure, Except.pure]

end Looks

section Nested

variable (name : String) (pairs : List (String × String))

/-- The outer mapping holds the inner one, which holds the texts. -/
def nestedGraph : Graph :=
  [(0, .mapping [(.text name, .collection 2)]),
    (2, .mapping (Table.ofEntries
      (pairs.map (Prod.map .text fun text => .scalar (.text text)))))]

theorem lookPairs_single {document : Document} {survey : Survey} {first second : Nat}
    (inner : List (Node × Node)) :
    document.lookPairs
        [(.scalar first .text name, .mapping second .mapping inner)] survey =
      .ok ([(.text name, .collection second)],
        survey.meet ⟨second, .mapping, .mapping second .mapping inner⟩) := by
  simp only [Document.lookPairs, look_text, look_mapping, bind, Except.bind, pure,
    Except.pure]

theorem value_nestedDocument (order : SetOrder) :
    (nestedDocument name pairs).value order =
      .ok ((nestedGraph name pairs).value (.collection 0)) := by
  let document := nestedDocument name pairs
  let inner : Node := .mapping 2 .mapping (pairNodes 3 pairs)
  let written : List (Node × Node) := [(.scalar 1 .text name, inner)]
  have textKey : HasTextKeys written :=
    List.forall_mem_singleton.mpr ⟨1, name, rfl⟩
  have top : document.look document.root .start =
      .ok (.collection 0,
        ⟨.unchanged, [], [0], [⟨0, .mapping, document.root⟩], []⟩) := look_mapping written
  have first : document.lookInto order ⟨0, .mapping, document.root⟩
      ⟨.unchanged, [], [0], [], []⟩ =
        .ok ⟨⟨[], [(0, written)]⟩, [], [2, 0], [⟨2, .mapping, inner⟩],
          [(0, .mapping [(.text name, .collection 2)])]⟩ :=
    lookInto_of_textKeys textKey rfl (lookPairs_single name (pairNodes 3 pairs))
  have second : document.lookInto order ⟨2, .mapping, inner⟩
      ⟨⟨[], [(0, written)]⟩, [], [2, 0], [],
        [(0, .mapping [(.text name, .collection 2)])]⟩ =
        .ok ⟨⟨[], [(0, written), (2, pairNodes 3 pairs)]⟩, [], [2, 0], [],
          nestedGraph name pairs⟩ :=
    lookInto_of_textKeys (hasTextKeys_pairNodes pairs) rfl (lookPairs_pairNodes pairs)
  have levels : document.lookIntoLevels order (document.size + 1)
      ⟨.unchanged, [], [0], [⟨0, .mapping, document.root⟩], []⟩ =
        .ok ⟨⟨[], [(0, written), (2, pairNodes 3 pairs)]⟩, [], [2, 0], [],
          nestedGraph name pairs⟩ := by
    have size : document.size + 1 = 2 * pairs.length + 1 + 1 + 1 + 1 := by
      simp only [document, nestedDocument]
      omega
    rw [size, lookIntoLevels_of_single rfl first, lookIntoLevels_of_single rfl second]
    rfl
  change (document.look document.root .start >>= _) = _
  rw [top]
  change (document.lookIntoLevels order _ _ >>= _) = _
  rw [levels]
  rfl

theorem mapM_map_of_pure {m : Type → Type} [Monad m] [LawfulMonad m] {α β γ : Type}
    {items : List α} {enter : α → β} {read : β → m γ} (result : α → γ)
    (reads : ∀ item, read (enter item) = pure (result item)) :
    (items.map enter).mapM read = pure (items.map result) := by
  induction items with
  | nil => rfl
  | cons item rest induction =>
      rw [List.map_cons, List.mapM_cons, induction, reads]
      simp only [pure_bind, List.map_cons]

theorem assemble_texts {m : Type → Type} [Monad m] [LawfulMonad m]
    {member : Part → m Value} (scalars : ∀ value, member (.scalar value) = pure value)
    (table : Table String String) :
    (Collection.mapping
      (table.map (Prod.map .text fun text => .scalar (.text text)))).assemble member =
        pure (.mapping (table.map (Prod.map .text .text))) := by
  rw [Collection.assemble, mapM_map_of_pure (Prod.map Value.text Value.text), pure_bind]
  intro entry
  simp only [Prod.map, scalars, pure_bind]

theorem value_nestedGraph :
    (nestedGraph name pairs).value (.collection 0) =
      .mapping [(.text name,
        .mapping ((Table.ofEntries pairs).map (Prod.map .text .text)))] := by
  have table : Table.ofEntries (pairs.map
      (Prod.map Value.text fun text => Part.scalar (.text text))) =
      (Table.ofEntries pairs).map (Prod.map .text fun text => .scalar (.text text)) :=
    Table.ofEntries_map Value.text (fun text => Part.scalar (.text text))
      (fun _ _ => rfl) pairs
  have inner : (nestedGraph name pairs).outline 1 (.collection 2) =
      pure (.mapping ((Table.ofEntries pairs).map (Prod.map .text .text))) := by
    have scalars (value : Value) :
        (nestedGraph name pairs).outline 0 (.scalar value) = pure value := rfl
    rw [← assemble_texts scalars, ← table]
    rfl
  have outer : (nestedGraph name pairs).outline 2 (.collection 0) = (do
      let value ← (nestedGraph name pairs).outline 1 (.collection 2)
      pure (.mapping [(.text name, value)])) := rfl
  rw [Graph.value, outer, inner]
  rfl

end Nested

theorem normalLines_of_not_mem {text : List Char} (absent : '\r' ∉ text) :
    normalLines text = text := by
  induction text with
  | nil => rfl
  | cons first rest induction =>
      have different : first ≠ '\r' := by
        intro same
        exact absent (same ▸ List.mem_cons_self)
      have later : '\r' ∉ rest := fun member => absent (List.mem_cons_of_mem _ member)
      simp [normalLines, different, induction later]

section Letters

variable {name : String} {width : Nat} {pairs : List (String × String)}

theorem letters_pairText {pair : String × String} (word : IsWordPair pair) :
    ∀ letter ∈ pairText pair, IsWordLetter letter ∨ letter ∈ [':', ' ', '\n'] := by
  intro letter member
  rcases List.mem_append.mp member with inKey | inRest
  · exact .inl (word.key.plain.letters letter inKey)
  · rcases List.mem_cons.mp inRest with rfl | inRest
    · exact .inr (by decide)
    · rcases List.mem_cons.mp inRest with rfl | inRest
      · exact .inr (by decide)
      · rcases List.mem_append.mp inRest with inValue | inBreak
        · exact .inl (word.value.letters letter inValue)
        · exact .inr (List.mem_append_right [':', ' '] inBreak)

theorem letters_nestedText (named : IsWordKey name)
    (words : ∀ pair ∈ pairs, IsWordPair pair) :
    ∀ letter ∈ nestedText name width pairs,
      IsWordLetter letter ∨ letter ∈ [':', ' ', '\n'] := by
  intro letter member
  rcases List.mem_append.mp member with inName | inRest
  · exact .inl (named.plain.letters letter inName)
  · rcases List.mem_cons.mp inRest with rfl | inRest
    · exact .inr (by decide)
    · rcases List.mem_cons.mp inRest with rfl | inLines
      · exact .inr (by decide)
      · obtain ⟨pair, inPairs, inLine⟩ := List.mem_flatMap.mp inLines
        rcases List.mem_append.mp inLine with inSpaces | inPair
        · rw [List.eq_of_mem_replicate inSpaces]
          exact .inr (by decide)
        · exact letters_pairText (words pair inPairs) letter inPair

theorem isAllowed_nestedText (named : IsWordKey name)
    (words : ∀ pair ∈ pairs, IsWordPair pair) :
    (nestedText name width pairs).all isAllowed = true := by
  apply List.all_eq_true.mpr
  intro letter member
  rcases letters_nestedText named words letter member with inside | mark
  · exact inside.isAllowed
  · have marks : [':', ' ', '\n'].all isAllowed = true := by decide
    exact List.all_eq_true.mp marks letter mark

theorem normalLines_nestedText (named : IsWordKey name)
    (words : ∀ pair ∈ pairs, IsWordPair pair) :
    normalLines (nestedText name width pairs) = nestedText name width pairs := by
  apply normalLines_of_not_mem
  intro member
  rcases letters_nestedText named words '\r' member with inside | mark
  · exact absurd rfl (inside.ne (by decide))
  · exact absurd mark (by decide)

end Letters

/-- A mapping of words under one name is read as it is written. Of pairs with one key
the first has the place and the last the word. -/
theorem read_nested {rules : List Rule} {name : String} {width : Nat}
    {pairs : List (String × String)} (reads : ReadsWords rules) (named : IsWordKey name)
    (indented : 0 < width) (nonempty : pairs ≠ [])
    (words : ∀ pair ∈ pairs, IsWordPair pair) (order : SetOrder) :
    read rules order (String.ofList (nestedText name width pairs)) =
      .ok (.mapping [(.text name,
        .mapping ((Table.ofEntries pairs).map (Prod.map .text .text)))]) := by
  have checked : (checkedPart (nestedText name width pairs) .malformed).all isAllowed =
      true := isAllowed_nestedText named words
  rw [read, String.toList_ofList, normalLines_nestedText named words,
    tokensOf_nested named indented nonempty words, checked,
    Document.ofTokens_nested reads named words]
  exact (value_nestedDocument name pairs order).trans
    (congrArg Except.ok (value_nestedGraph name pairs))

end ClassTaint.Yaml
