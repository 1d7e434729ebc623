import ClassTaint.Session
import ClassTaint.Proofs.Catalog.LastEntry
import ClassTaint.Proofs.Catalog.Strictness

namespace ClassTaint

/-! Lookups in catalogs that were loaded. All their keys are descriptors, so a name
leads to an entry only as a spelling of the key. -/

namespace Catalog

variable {mode : Mode} {document : Value} {source : Source} {catalog : Catalog}

/-- A catalog holds what the valid entries say, in whichever mode it was loaded. -/
theorem exists_rules_of_loaded
    (loaded : (ofDocument mode document).outcome = .ok catalog) :
    ∃ rules, Rules.ofDocument document rulesName = .ok rules ∧
      catalog = Table.ofEntries (rules.entries.filterMap Entry.valid?) := by
  have lenient : (ofDocument .lenient document).outcome = .ok catalog := by
    cases mode with
    | lenient => exact loaded
    | strict =>
        rw [ofDocument_strict] at loaded
        exact Loading.outcome_of_interrupted loaded
  cases found : Rules.ofDocument document rulesName with
  | ok rules =>
      rcases outcome_ofDocument_lenient found with ⟨-, same⟩ | ⟨_, -, failed⟩
      · cases lenient.symm.trans same
        exact ⟨rules, rfl, rfl⟩
      · cases lenient.symm.trans failed
  | error error =>
      rw [ofDocument_of_rulesError found] at lenient
      cases lenient

theorem exists_document_of_ofText {order : Yaml.SetOrder} {text : String}
    (loaded : (ofText mode order text).outcome = .ok catalog) :
    ∃ document, (ofDocument mode document).outcome = .ok catalog := by
  unfold ofText at loaded
  cases read : Yaml.read Yaml.reducedRules order text with
  | error fault =>
      rw [read] at loaded
      cases loaded
  | ok document =>
      rw [read] at loaded
      cases outcome : (ofDocument mode document).outcome with
      | ok other =>
          simp only [outcome, Except.mapError] at loaded
          cases loaded
          exact ⟨document, outcome⟩
      | error error =>
          simp only [outcome, Except.mapError] at loaded
          cases loaded

theorem exists_document_of_ofSource
    (loaded : (ofSource mode source).outcome = .ok catalog) :
    ∃ document, (ofDocument mode document).outcome = .ok catalog := by
  cases source with
  | standard =>
      rw [ofSource] at loaded
      exact exists_document_of_ofText loaded
  | file content order =>
      cases decoded : String.fromUTF8? content with
      | none =>
          rw [ofSource, decoded] at loaded
          cases loaded
      | some text =>
          rw [ofSource, decoded] at loaded
          exact exists_document_of_ofText loaded
  | directory => cases loaded
  | missing => cases loaded

theorem isDescriptor_of_loaded {key : String} {config : Config}
    (loaded : (ofSource mode source).outcome = .ok catalog)
    (present : Table.get? key catalog = some config) :
    isDescriptor key.toList = true := by
  obtain ⟨document, outcome⟩ := exists_document_of_ofSource loaded
  obtain ⟨rules, -, rfl⟩ := exists_rules_of_loaded outcome
  obtain ⟨entry, -, stores⟩ := stores_of_get?_valid present
  exact stores.isDescriptor_key

end Catalog

namespace MadeCatalog

/-- The configuration that a name leads to, as the one of its entry. -/
def find? (made : MadeCatalog) (name : String) : Option MadeConfig :=
  made.get? (String.ofList (spelledDescriptor name.toList))

variable {made : MadeCatalog}

theorem config_find? (made : MadeCatalog) (name : String) :
    (made.find? name).map (·.config) = made.catalog.find? name := by
  rw [find?, get?, Option.map_map]
  exact Option.map_id'

theorem key_eq_of_get? {key other : String} {found : MadeConfig}
    (first : made.get? key = some found) (second : made.get? other = some found) :
    key = other := by
  obtain ⟨one, -, rfl⟩ := Option.map_eq_some_iff.mp first
  obtain ⟨two, -, same⟩ := Option.map_eq_some_iff.mp second
  injection same with _ origins
  injection origins with _ keys
  exact keys.symm

theorem find?_eq_some_iff {key name : String} {found : MadeConfig}
    (present : made.get? key = some found) :
    made.find? name = some found ↔
      String.ofList (spelledDescriptor name.toList) = key := by
  constructor
  · intro same
    exact key_eq_of_get? same present
  · intro same
    rw [find?, same, present]

/-- A session finds the entry itself. -/
theorem lookup_text {session : Session} {slot : String}
    (held : session.catalog? slot = some made) (name : String)
    (into : Option String) :
    session.lookup slot (.text name) into =
      ((made.find? name).map fun found =>
        ((into.map fun target => session.put target (.config found)).getD session,
          Answer.config found.config)).getD (session, .notFound) := by
  cases found : made.find? name with
  | none =>
      unfold find? at found
      simp only [Session.lookup, held, Value.spelledDescriptor, found]
      rfl
  | some other =>
      unfold find? at found
      simp only [Session.lookup, held, Value.spelledDescriptor, found]
      cases into <;> rfl

/-- A name leads to the entry that it spells. Its trimmed text is a key itself, or
the name of the class under the key, and nothing else leads to an entry. -/
theorem find?_spelling {mode : Mode} {source : Source}
    (loaded : (Catalog.ofSource mode source).outcome = .ok made.catalog) :
    (∀ name : String,
      let spelling := Text.trim name.toList
      (made.find? name).map (·.config) = made.catalog.find? name ∧
      (isDescriptor spelling = true →
        made.find? name = made.get? (String.ofList spelling)) ∧
      (isDescriptor spelling = false → IsClassPath (slashed spelling) →
        made.find? name =
          made.get? (String.ofList (objectText (slashed spelling)))) ∧
      (isDescriptor spelling = false → ¬ IsClassPath (slashed spelling) →
        made.find? name = none)) ∧
    ∀ path found, made.get? (String.ofList (objectText path)) = some found →
      (∀ name : String,
        let spelling := Text.trim name.toList
        made.find? name = some found ↔ spelling = objectText path ∨
          (slashed spelling = path ∧ ¬ IsPrimitiveText path)) ∧
      ∀ spelling front back, Text.IsBlankText front → Text.IsBlankText back →
        let name := String.ofList (front ++ spelling ++ back)
        (spelling = objectText path → made.find? name = some found) ∧
        (slashed spelling = path → ¬ IsPrimitiveText path →
          made.find? name = some found) ∧
        (slashed spelling = path → IsPrimitiveText path →
          made.find? name = made.get? (String.ofList path) ∧
            made.find? name ≠ some found) := by
  have keyed : ∀ key found, made.get? (String.ofList key) = some found →
      isDescriptor key = true := by
    intro key found present
    obtain ⟨config, stored, -⟩ := Option.map_eq_some_iff.mp present
    have written := Catalog.isDescriptor_of_loaded loaded stored
    rwa [String.toList_ofList] at written
  refine ⟨?names, ?entries⟩
  case names =>
    intro name spelling
    refine ⟨made.config_find? name, ?_, ?_, ?_⟩
    · intro written
      rw [find?, spelledDescriptor_of_trim written]
    · intro other _
      rw [find?, spelledDescriptor_of_not_isDescriptor other]
    · intro other malformed
      rw [find?, spelledDescriptor_of_not_isDescriptor other]
      cases present : made.get? (String.ofList (objectText (slashed spelling))) with
      | none => rfl
      | some found =>
          have written := keyed _ _ present
          exact absurd (isDescriptor_objectText_iff.mp written) malformed
  case entries =>
    intro path found present
    have classPath := isDescriptor_objectText_iff.mp (keyed _ _ present)
    have spelled : ∀ name : String,
        made.find? name = some found ↔
          Text.trim name.toList = objectText path ∨
            (slashed (Text.trim name.toList) = path ∧ ¬ IsPrimitiveText path) := by
      intro name
      rw [find?_eq_some_iff present, String.ofList_inj,
        spelledDescriptor_eq_objectText_iff classPath]
    refine ⟨spelled, ?_⟩
    intro spelling front back before after name
    have trimmed : Text.trim spelling = spelling →
        Text.trim name.toList = spelling := by
      intro same
      rw [String.toList_ofList]
      exact trim_padded before after same
    refine ⟨?_, ?_, ?_⟩
    · rintro rfl
      exact (spelled name).mpr (.inl (trimmed (trim_objectText classPath)))
    · rintro rfl other
      rw [spelled, trimmed (trim_of_slashed classPath)]
      exact .inr ⟨rfl, other⟩
    · rintro rfl primitive
      have text := trimmed (trim_of_slashed classPath)
      have written := (isDescriptor_iff_isPrimitiveText classPath).mpr primitive
      have same := primitive.slashed_eq
      constructor
      · rw [find?, spelledDescriptor_of_trim (text.symm ▸ written), text, same]
      · intro hit
        rcases (spelled name).mp hit with itself | ⟨-, other⟩
        · rw [text, same] at itself
          exact objectText_ne_self spelling itself
        · exact other primitive

/-- A class may be named like a primitive, and then only its descriptor leads to
it. -/
theorem find?_spelling_primitive :
    ∃ (made : MadeCatalog) (found other : MadeConfig),
      (Catalog.ofSource .lenient (.file
        "classes:\n  I: SAFE\n  LI;: NULL\n  Lp/A;: SAFE\n".toUTF8)).outcome =
          .ok made.catalog ∧
      made.get? "LI;" = some found ∧ made.get? "Lp/A;" = some other ∧
      made.find? "LI;\n" = some found ∧ made.find? "I" = made.get? "I" ∧
      made.find? "I" ≠ some found ∧ made.find? "\tp.A" = some other := by
  obtain ⟨catalog, outcome, stored⟩ : ∃ catalog,
      (Catalog.ofSource .lenient (.file
        "classes:\n  I: SAFE\n  LI;: NULL\n  Lp/A;: SAFE\n".toUTF8)).outcome =
          .ok catalog ∧
      ((Table.get? "LI;" catalog).isSome &&
        (Table.get? "Lp/A;" catalog).isSome) = true :=
    exists_ok_of_check (by decide +kernel)
  rw [Bool.and_eq_true, Option.isSome_iff_exists,
    Option.isSome_iff_exists] at stored
  obtain ⟨⟨first, inFirst⟩, second, inSecond⟩ := stored
  let made : MadeCatalog := ⟨catalog, 0⟩
  have found : made.get? "LI;" = some ⟨first, .entry 0 "LI;"⟩ :=
    Option.map_eq_some_iff.mpr ⟨first, inFirst, rfl⟩
  have other : made.get? "Lp/A;" = some ⟨second, .entry 0 "Lp/A;"⟩ :=
    Option.map_eq_some_iff.mpr ⟨second, inSecond, rfl⟩
  have primitive := (find?_spelling outcome).2 "I".toList _ found
  have packaged := (find?_spelling outcome).2 "p/A".toList _ other
  have bare := (primitive.2 "I".toList [] [] nofun nofun).2.2 (by decide)
    ⟨'I', by decide, by decide⟩
  rw [List.append_nil, List.nil_append, String.ofList_toList] at bare
  refine ⟨made, _, _, outcome, found, other, ?_, bare.1, bare.2, ?_⟩
  · exact (primitive.1 "LI;\n").mpr (.inl (by decide))
  · refine (packaged.1 "\tp.A").mpr (.inr ⟨by decide, ?_⟩)
    rintro ⟨letter, -, single⟩
    cases single

end MadeCatalog

end ClassTaint
