import ClassTaint.Catalog.Source
import ClassTaint.Proofs.Catalog.Lines
import ClassTaint.Proofs.Enumeration.Taint
import ClassTaint.Proofs.Yaml.Document.Nested
import Mathlib.Data.List.Forall2

namespace ClassTaint

/-! Catalogs from the text of a file. A file with one line for each class is read
back as it was written, although nothing in it is quoted. -/

namespace TaintState

theorem isStateName_of_mem {name : String} (member : name ∈ names) :
    IsStateName name.toList := by
  have words : names.all (fun name => isStateWord name.toList) = true := by decide
  exact isStateWord_iff.mp (List.all_eq_true.mp words name member)

theorem isWord_of_mem {name : String} (member : name ∈ names) (back : List Char)
    (letters : ∀ letter ∈ back, Yaml.IsWordLetter letter) :
    Yaml.IsWord (name.toList ++ back) where
  letters := by
    intro letter inside
    rcases List.mem_append.mp inside with inName | inBack
    · have range := (isStateName_of_mem member).toNat letter inName
      have uncoloned : letter ≠ ':' := by
        intro same
        subst same
        exact absurd range (by decide)
      exact ⟨by omega, by omega, uncoloned⟩
    · exact letters letter inBack
  start := by
    have starts : names.all (fun name => name.toList.head?.any Char.isAlpha) = true := by
      decide
    have alpha := List.all_eq_true.mp starts name member
    cases written : name.toList with
    | nil =>
        rw [written] at alpha
        cases alpha
    | cons first rest =>
        rw [written] at alpha
        exact ⟨first, rest ++ back, rfl, alpha⟩

end TaintState

theorem letters_immutableMarker : ∀ letter ∈ immutableMarker, Yaml.IsWordLetter letter :=
  List.forall_mem_cons.mpr
    ⟨⟨by decide, by decide, by decide⟩, Yaml.letters_of_all_isAlpha rfl⟩

theorem isWord_of_isDescriptor {text : List Char} (valid : isDescriptor text = true)
    (single : text.head? ≠ some '[') : Yaml.IsWord text := by
  obtain ⟨levels, element, parts⟩ := isDescriptor_iff_parts.mp valid
  constructor
  · intro letter member
    have allowed := parts.letters letter member
    obtain ⟨above, below⟩ := allowed.toNat
    refine ⟨above, below, ?_⟩
    intro same
    subst same
    exact absurd allowed (by decide)
  · obtain ⟨first, rest, rfl⟩ := List.exists_cons_of_ne_nil parts.text_ne_nil
    have different : first ≠ '[' := by
      intro same
      exact single (congrArg some same)
    have capital := isUpper_iff.mpr (parts.isCapital_of_head different)
    exact ⟨first, rest, rfl, Bool.or_eq_true_iff.mpr (.inl capital)⟩

/-- What a line says about a class. -/
structure CatalogLine where
  descriptor : String
  state : String
  immutable : Bool

namespace CatalogLine

def summary (line : CatalogLine) : String :=
  line.state ++ if line.immutable then "#IMMUTABLE" else ""

def text (line : CatalogLine) : String :=
  "  " ++ line.descriptor ++ ": " ++ line.summary ++ "\n"

/-- The text of a file with the lines. -/
def fileText (lines : List CatalogLine) : String :=
  "classes:\n" ++ String.join (lines.map text)

def pair (line : CatalogLine) : String × String :=
  (line.descriptor, line.summary)

/-- The line is about a class or a primitive, whose descriptor is short enough for a
key, and names a taint state. -/
structure IsPlain (line : CatalogLine) : Prop where
  descriptor : isDescriptor line.descriptor.toList = true
  single : line.descriptor.toList.head? ≠ some '['
  short : line.descriptor.length ≤ 1024
  state : line.state ∈ TaintState.names

/-- The entry says what the line says, and nothing but that. -/
structure Describes (line : CatalogLine) (entry : String × Config) : Prop where
  descriptor : entry.1 = line.descriptor
  enumeration : entry.2.taintState.enumeration = TaintState.enumeration
  state : entry.2.taintState.member.name = line.state
  immutable : entry.2.immutable = line.immutable
  standard : entry.2.defaultState = TaintState.null

variable {line : CatalogLine}

theorem toList_summary (line : CatalogLine) :
    line.summary.toList =
      line.state.toList ++ if line.immutable then immutableMarker else [] := by
  rw [summary, String.toList_append]
  cases line.immutable <;> rfl

theorem summaryParts (plain : line.IsPlain) :
    SummaryParts line.summary.toList line.state.toList line.immutable := by
  rw [toList_summary]
  cases line.immutable with
  | false =>
      rw [if_neg Bool.false_ne_true, List.append_nil]
      exact .ofStateName (TaintState.isStateName_of_mem plain.state)
  | true => exact .marked rfl

theorem isWordPair (plain : line.IsPlain) : Yaml.IsWordPair line.pair where
  key := ⟨isWord_of_isDescriptor plain.descriptor plain.single, plain.short⟩
  value := by
    rw [pair, toList_summary]
    apply TaintState.isWord_of_mem plain.state
    cases line.immutable with
    | false => exact fun _ member => nomatch member
    | true => exact letters_immutableMarker

theorem exists_stores (plain : line.IsPlain) :
    ∃ config, (Entry.ofPair line.pair).Stores line.descriptor config ∧
      line.Describes (line.descriptor, config) := by
  have parts := summaryParts plain
  have name := TaintState.isStateName_of_mem plain.state
  have nonempty := parts.text_ne_nil name.1
  have form : isSummary line.summary.toList = true :=
    isSummary_iff.mpr ⟨nonempty, _, _, parts, .inr name⟩
  rw [← trim_of_isSummary form] at parts nonempty
  have known : TaintState.enumeration.HasName (String.ofList line.state.toList) := by
    rw [String.ofList_toList]
    exact TaintState.hasName_of_mem plain.state
  obtain ⟨config, loaded⟩ : ∃ config, Config.loadTaint line.summary = .ok config :=
    (Config.load_succeeds_iff parts nonempty).mpr (.inr ⟨name, known⟩)
  obtain ⟨immutable, standard, -, named⟩ := Config.fields_of_load parts loaded
  have denotes := named name.1
  rw [String.ofList_toList] at denotes
  refine ⟨config, ⟨rfl, ?_, Value.loadTaint_text_eq_ok_iff.mpr loaded⟩, rfl,
    denotes.enumeration, TaintState.name_of_denotes denotes, immutable, standard⟩
  exact (accepts_iff_isSummary plain.descriptor).mpr form

theorem toList_text (line : CatalogLine) :
    line.text.toList = List.replicate 2 ' ' ++ Yaml.pairText line.pair := by
  simp [text, Yaml.pairText, pair]

theorem toList_fileText (lines : List CatalogLine) :
    (fileText lines).toList =
      Yaml.nestedText Catalog.rulesName 2 (lines.map pair) := by
  rw [fileText, String.toList_append, String.toList_join, Yaml.nestedText, Yaml.linesText,
    List.flatMap_map, List.flatMap_map]
  simp only [toList_text]
  rfl

end CatalogLine

namespace Catalog

theorem ofSource_file_toUTF8 (mode : Mode) (text : String) (order : Yaml.SetOrder) :
    ofSource mode (.file text.toUTF8 order) = ofText mode order text := by
  have decoded : String.fromUTF8? text.toUTF8 = some text := dif_pos text.isValidUTF8
  simp only [ofSource, decoded]

theorem ofText_of_read {mode : Mode} {order : Yaml.SetOrder} {text : String}
    {document : Value} {catalog : Catalog} {log : List Record}
    (read : Yaml.read Yaml.reducedRules order text = .ok document)
    (loaded : ofDocument mode document = ⟨.ok catalog, log⟩) :
    ofText mode order text = ⟨.ok catalog, log⟩ := by
  -- The equation lemma of the definition would run the reader of texts.
  unfold ofText
  simp only [read, loaded]
  rfl

variable {lines : List CatalogLine}

theorem isWordKey_rulesName : Yaml.IsWordKey rulesName :=
  ⟨⟨Yaml.letters_of_all_isAlpha rfl, 'c', _, rfl, rfl⟩, by decide⟩

theorem read_fileText (nonempty : lines ≠ []) (plain : ∀ line ∈ lines, line.IsPlain)
    (order : Yaml.SetOrder) :
    Yaml.read Yaml.reducedRules order (CatalogLine.fileText lines) =
      .ok (.mapping [(.text rulesName,
        (Rules.mapped (lines.map CatalogLine.pair)).toValue)]) := by
  have words : ∀ pair ∈ lines.map CatalogLine.pair, Yaml.IsWordPair pair := by
    intro pair member
    obtain ⟨line, inLines, rfl⟩ := List.mem_map.mp member
    exact CatalogLine.isWordPair (plain line inLines)
  have some : lines.map CatalogLine.pair ≠ [] := mt List.map_eq_nil_iff.mp nonempty
  have text : CatalogLine.fileText lines =
      String.ofList (Yaml.nestedText rulesName 2 (lines.map CatalogLine.pair)) := by
    rw [← CatalogLine.toList_fileText, String.ofList_toList]
  rw [text, Rules.mapped_eq, Yaml.read_nested Yaml.readsWords_reducedRules
    isWordKey_rulesName (by decide) some words]
  rfl

/-- A file with a line for each class, in which nothing is quoted, is loaded as it
was written. Nothing is skipped or repeated in it. -/
theorem ofSource_fileText (lines : List CatalogLine) (nonempty : lines ≠ [])
    (plain : ∀ line ∈ lines, line.IsPlain)
    (distinct : (lines.map (·.descriptor)).Nodup) :
    ∃ catalog : Catalog,
      (∀ mode order, ofSource mode (.file (CatalogLine.fileText lines).toUTF8 order) =
        ⟨.ok catalog, [.loaded lines.length]⟩) ∧
      List.Forall₂ CatalogLine.Describes lines catalog := by
  have about : ∀ pair ∈ lines.map CatalogLine.pair,
      (Entry.ofPair pair).IsAbout pair.1 := by
    intro pair member
    obtain ⟨line, inLines, rfl⟩ := List.mem_map.mp member
    obtain ⟨config, stores, -⟩ := CatalogLine.exists_stores (plain line inLines)
    exact ⟨config, stores⟩
  have keys : (Table.keys (lines.map CatalogLine.pair)).Nodup := by
    rw [Table.keys, List.map_map]
    exact distinct
  obtain ⟨read, reads⟩ := exists_reading about
  have stored : Table.ofEntries ((lines.map CatalogLine.pair).map (Prod.map id read)) =
      (lines.map CatalogLine.pair).map (Prod.map id read) := by
    apply Table.ofEntries_of_nodup
    rw [Table.keys, List.map_map]
    exact keys
  have loaded (mode : Mode) : ofDocument mode (.mapping [(.text rulesName,
      (Rules.mapped (lines.map CatalogLine.pair)).toValue)]) =
        ⟨.ok ((lines.map CatalogLine.pair).map (Prod.map id read)),
          [.loaded lines.length]⟩ := by
    rw [ofDocument_of_rules (Rules.ofDocument_singleton _ rulesName) mode,
      Rules.entries_mapped, Table.ofEntries_of_nodup keys, storeAll_nil_ofPair reads,
      repetitions_of_nodup keys, stored]
    simp
  refine ⟨(lines.map CatalogLine.pair).map (Prod.map id read), ?loads, ?describes⟩
  case loads =>
    intro mode order
    rw [ofSource_file_toUTF8]
    exact ofText_of_read (read_fileText nonempty plain order) (loaded mode)
  case describes =>
    rw [List.map_map, List.forall₂_map_right_iff, List.forall₂_same]
    intro line member
    obtain ⟨config, stores, describes⟩ := CatalogLine.exists_stores (plain line member)
    cases stores.read_eq.symm.trans (reads line.pair (List.mem_map_of_mem member))
    exact describes

/-- The name of the null state, alone and before the marker, under a class name with a
dollar sign and under a primitive. -/
theorem ofSource_fileText_null :
    let lines : List CatalogLine := [⟨"La/B$C;", "NULL", false⟩, ⟨"I", "NULL", true⟩]
    let text := "classes:\n  La/B$C;: NULL\n  I: NULL#IMMUTABLE\n"
    CatalogLine.fileText lines = text ∧ ∃ catalog : Catalog,
      (∀ mode order,
        ofSource mode (.file text.toUTF8 order) = ⟨.ok catalog, [.loaded 2]⟩) ∧
      List.Forall₂ CatalogLine.Describes lines catalog := by
  intro lines text
  have plain : ∀ line ∈ lines, line.IsPlain := by
    intro line member
    rcases List.mem_pair.mp member with rfl | rfl
    all_goals exact ⟨by decide, by decide, by decide, by decide⟩
  have written : CatalogLine.fileText lines = text := by decide
  obtain ⟨catalog, loads, describes⟩ := ofSource_fileText lines (by simp [lines]) plain
    (by decide)
  exact ⟨written, catalog, written ▸ loads, describes⟩

end Catalog

end ClassTaint
