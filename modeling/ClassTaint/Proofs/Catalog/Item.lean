import ClassTaint.Proofs.Catalog.Concatenation
import ClassTaint.Proofs.Catalog.Form
import ClassTaint.Proofs.Catalog.Splitting
import ClassTaint.Proofs.Text.Padding
import Mathlib.Data.List.Forall2

namespace ClassTaint

/-! Items of a list of rules. An item is stored just when it is one line with a
descriptor and a summary that is read. Such a line has a single colon, so it does not
matter at which of their colons lines are split. -/

/-- A descriptor and a summary with a colon between them, and blanks around each. -/
structure EntryLine where
  key : Text.Padded
  summary : Text.Padded
  descriptor : isDescriptor key.content = true
  form : isSummary summary.content = true

namespace EntryLine

def text (line : EntryLine) : List Char :=
  line.key.text ++ ':' :: line.summary.text

variable {line left right : EntryLine}

theorem isTight_key (line : EntryLine) : line.key.IsTight where
  trimmed := trim_of_isDescriptor line.descriptor
  nonempty := by
    obtain ⟨_, _, parts⟩ := isDescriptor_iff_parts.mp line.descriptor
    exact parts.text_ne_nil

theorem isTight_summary (line : EntryLine) : line.summary.IsTight where
  trimmed := trim_of_isSummary line.form
  nonempty := (ClassTaint.isSummary_iff.mp line.form).1

theorem not_isBlank_colon : Text.isBlank ':' = false := by
  decide

theorem colon_not_mem_key (line : EntryLine) : ':' ∉ line.key.text := by
  rw [Text.Padded.mem_text_iff not_isBlank_colon]
  obtain ⟨_, _, parts⟩ := isDescriptor_iff_parts.mp line.descriptor
  intro member
  exact absurd (parts.letters ':' member) (by decide)

theorem colon_not_mem_summary (line : EntryLine) : ':' ∉ line.summary.text := by
  rw [Text.Padded.mem_text_iff not_isBlank_colon]
  exact colon_not_mem_of_isSummary line.form

theorem count_colon (line : EntryLine) : line.text.count ':' = 1 := by
  rw [text, List.count_append, List.count_cons_self,
    List.count_eq_zero.mpr line.colon_not_mem_key,
    List.count_eq_zero.mpr line.colon_not_mem_summary]

theorem split_text {split : List Char → Option (List Char × List Char)}
    (splits : Splits ':' split) (line : EntryLine) :
    split line.text = some (line.key.text, line.summary.text) :=
  splits.eq_of_single line.colon_not_mem_key line.colon_not_mem_summary

/-- No text is a line in two ways. -/
theorem eq_of_text (same : left.text = right.text) : left = right := by
  have split := split_text (splits_splitAtLast ':') left
  rw [same, split_text (splits_splitAtLast ':')] at split
  obtain ⟨keys, summaries⟩ := Prod.mk.inj (Option.some.inj split)
  have key := Text.Padded.eq_of_text left.isTight_key right.isTight_key keys.symm
  have summary :=
    Text.Padded.eq_of_text left.isTight_summary right.isTight_summary summaries.symm
  cases left
  cases right
  cases key
  cases summary
  rfl

theorem loads_iff (line : EntryLine) :
    (∃ config, Config.loadTaint (String.ofList line.summary.content) = .ok config) ↔
      ∃ word immutable, SummaryParts line.summary.content word immutable ∧
        (word = [] ∨ TaintState.enumeration.HasName (String.ofList word)) := by
  have trimmed := line.isTight_summary.trimmed
  rw [Config.loadTaint, Config.load_succeeds_iff_isSummary, String.toList_ofList, trimmed]
  exact and_iff_right line.form

end EntryLine

namespace Value

/-- The item is a text with one line, and this is what the line says. -/
def Contributes (item : Value) (key : String) (config : Config) : Prop :=
  ∃ line : EntryLine, item = .text (String.ofList line.text) ∧
    key = String.ofList line.key.content ∧
    Config.loadTaint (String.ofList line.summary.content) = .ok config

/-- The entry that stands for an item, whatever the item is. -/
inductive Yields : Value → Entry → Prop
  | bare {item : Value}
      (plain : ∀ content, item = .text content → ':' ∉ content.toList) :
      Yields item ⟨item, .null⟩
  | parted {content : String} {before after : List Char}
      (whole : content.toList = before ++ ':' :: after) (last : ':' ∉ after) :
      Yields (.text content)
        ⟨.text (String.ofList (Text.trim before)), .text (String.ofList (Text.trim after))⟩

theorem yields_ofLine (item : Value) : item.Yields (Entry.ofLine item) := by
  cases item with
  | text content =>
      cases split : splitAtLast ':' content.toList with
      | none =>
          simp only [Entry.ofLine, split]
          apply Yields.bare
          rintro _ ⟨⟩
          exact splitAtLast_eq_none_iff.mp split
      | some parts =>
          obtain ⟨whole, last⟩ := splitAtLast_eq_some_iff.mp split
          simp only [Entry.ofLine, split]
          exact .parted whole last
  | _ =>
      apply Yields.bare
      intro content same
      cases same

end Value

namespace Entry

/-- The entry of a line that is split in this way. -/
def ofLineWith (split : List Char → Option (List Char × List Char))
    (line : Value) : Entry :=
  match line with
  | .text content =>
      match split content.toList with
      | some (key, summary) =>
          ⟨.text (String.ofList (Text.trim key)),
            .text (String.ofList (Text.trim summary))⟩
      | none => ⟨line, .null⟩
  | _ => ⟨line, .null⟩

theorem ofLine_eq_ofLineWith : ofLine = ofLineWith (splitAtLast ':') := by
  funext line
  cases line <;> rfl

variable {item : Value} {key : String} {config : Config}

section Split

variable {split other : List Char → Option (List Char × List Char)}
  (splits : Splits ':' split) (others : Splits ':' other)

theorem isReportable_ofLineWith_text (content : String) :
    (ofLineWith split (.text content)).IsReportable := by
  intro refused
  cases parts : split content.toList <;> simp [ofLineWith, parts, Value.isWritable]

theorem isReportable_ofLineWith_iff :
    (ofLineWith split item).IsReportable ↔ (ofLineWith other item).IsReportable := by
  cases item with
  | text content =>
      exact iff_of_true (isReportable_ofLineWith_text content)
        (isReportable_ofLineWith_text content)
  | _ => exact Iff.rfl

include splits

theorem ofLineWith_line (line : EntryLine) :
    ofLineWith split (.text (String.ofList line.text)) =
      ⟨.text (String.ofList line.key.content),
        .text (String.ofList line.summary.content)⟩ := by
  simp only [ofLineWith, String.toList_ofList, line.split_text splits,
    Text.Padded.trim_text, line.isTight_key.trimmed, line.isTight_summary.trimmed]

theorem exists_line_of_accepts
    (fits : accepts (ofLineWith split item).key (ofLineWith split item).summary = true) :
    ∃ line : EntryLine, item = .text (String.ofList line.text) := by
  obtain ⟨name, text, keyText, summaryText, written, form⟩ := exists_text_of_accepts fits
  cases item with
  | text content =>
      cases parts : split content.toList with
      | none =>
          simp only [ofLineWith, parts] at summaryText
          cases summaryText
      | some pair =>
          simp only [ofLineWith, parts] at keyText summaryText
          cases keyText
          cases summaryText
          rw [String.toList_ofList] at written form
          obtain ⟨front, frontText, frontContent⟩ := Text.Padded.exists_text_eq pair.1
          obtain ⟨back, backText, backContent⟩ := Text.Padded.exists_text_eq pair.2
          refine ⟨⟨front, back, frontContent ▸ written, backContent ▸ form⟩, ?_⟩
          rw [EntryLine.text, frontText, backText, ← splits.whole parts,
            String.ofList_toList]
  | _ => cases summaryText

theorem stores_ofLineWith_iff :
    (ofLineWith split item).Stores key config ↔ item.Contributes key config := by
  constructor
  · intro stores
    obtain ⟨line, rfl⟩ := exists_line_of_accepts splits stores.form
    have named := stores.key
    have loaded := stores.config
    rw [ofLineWith_line splits] at named loaded
    exact ⟨line, rfl, (Value.text.inj named).symm,
      Value.loadTaint_text_eq_ok_iff.mp loaded⟩
  · rintro ⟨line, rfl, rfl, loaded⟩
    rw [ofLineWith_line splits]
    refine ⟨rfl, ?_, Value.loadTaint_text_eq_ok_iff.mpr loaded⟩
    apply (accepts_iff_isSummary _).mpr
    · rw [String.toList_ofList]
      exact line.form
    · rw [String.toList_ofList]
      exact line.descriptor

theorem not_accepts_of_two_colons {content : String}
    (several : 2 ≤ content.toList.count ':') :
    accepts (ofLineWith split (.text content)).key
      (ofLineWith split (.text content)).summary = false := by
  apply Bool.eq_false_iff.mpr
  intro fits
  obtain ⟨line, same⟩ := exists_line_of_accepts splits fits
  cases same
  rw [String.toList_ofList, line.count_colon] at several
  omega

include others

theorem valid?_ofLineWith :
    (ofLineWith split item).valid? = (ofLineWith other item).valid? := by
  apply Option.ext
  rintro ⟨key, config⟩
  rw [valid?_eq_some_iff, valid?_eq_some_iff, stores_ofLineWith_iff splits,
    stores_ofLineWith_iff others]

end Split

theorem stores_ofLine_iff :
    (ofLine item).Stores key config ↔ item.Contributes key config := by
  rw [ofLine_eq_ofLineWith]
  exact stores_ofLineWith_iff (splits_splitAtLast ':')

end Entry

/-- The entry does not bring a run in this mode to a stop. -/
def Entry.Passes (entry : Entry) : Mode → Prop
  | .lenient => entry.IsReportable
  | .strict => ∃ key, entry.IsAbout key

namespace Catalog

variable {mode : Mode} {entries : List Entry} {items : List Value} {stored : Catalog}
  {split other : List Char → Option (List Char × List Char)}

theorem outcome_storeAll_eq_ok_iff :
    (storeAll mode [] entries).outcome = .ok stored ↔
      (∀ entry ∈ entries, entry.Passes mode) ∧
        stored = Table.ofEntries (entries.filterMap Entry.valid?) := by
  have determined : ∀ {final : Catalog}, (storeAll mode [] entries).outcome = .ok final →
      final = Table.ofEntries (entries.filterMap Entry.valid?) := by
    intro final loaded
    cases mode with
    | lenient => exact eq_of_loaded loaded
    | strict =>
        rw [storeAll_strict] at loaded
        exact eq_of_loaded (Loading.outcome_of_interrupted loaded)
  have passes : (∃ final, (storeAll mode [] entries).outcome = .ok final) ↔
      ∀ entry ∈ entries, entry.Passes mode := by
    cases mode with
    | lenient => exact exists_storeAll_lenient_iff []
    | strict => exact exists_storeAll_strict_iff []
  constructor
  · intro loaded
    exact ⟨passes.mp ⟨stored, loaded⟩, determined loaded⟩
  · rintro ⟨all, rfl⟩
    obtain ⟨final, loaded⟩ := passes.mpr all
    rw [loaded, determined loaded]

theorem passes_ofLineWith_iff (splits : Splits ':' split) (others : Splits ':' other)
    {item : Value} :
    (Entry.ofLineWith split item).Passes mode ↔
      (Entry.ofLineWith other item).Passes mode := by
  cases mode with
  | lenient => exact Entry.isReportable_ofLineWith_iff
  | strict =>
      simp only [Entry.Passes, Entry.IsAbout, Entry.stores_ofLineWith_iff splits,
        Entry.stores_ofLineWith_iff others]

theorem outcome_ofLineWith (splits : Splits ':' split) (others : Splits ':' other) :
    (storeAll mode [] (items.map (Entry.ofLineWith split))).outcome = .ok stored ↔
      (storeAll mode [] (items.map (Entry.ofLineWith other))).outcome = .ok stored := by
  have valid : Entry.valid? ∘ Entry.ofLineWith split =
      Entry.valid? ∘ Entry.ofLineWith other :=
    funext fun _ => Entry.valid?_ofLineWith splits others
  rw [outcome_storeAll_eq_ok_iff, outcome_storeAll_eq_ok_iff, List.filterMap_map,
    List.filterMap_map, valid, List.forall_mem_map, List.forall_mem_map]
  simp only [passes_ofLineWith_iff splits others]

theorem get?_of_items (loaded : (storeAll mode [] (items.map Entry.ofLine)).outcome =
    .ok stored) {key : String} {config : Config} :
    Table.get? key stored = some config ↔
      ∃ before item after, items = before ++ item :: after ∧ item.Contributes key config ∧
        ∀ later ∈ after, ∀ other, ¬ later.Contributes key other := by
  have contributed : ∀ {item : Value} {config : Config},
      (Entry.valid? ∘ Entry.ofLine) item = some (key, config) ↔ item.Contributes key config :=
    Entry.valid?_eq_some_iff.trans Entry.stores_ofLine_iff
  rw [(outcome_storeAll_eq_ok_iff.mp loaded).2, List.filterMap_map,
    Table.get?_ofEntries_filterMap_eq_some_iff]
  simp only [ne_eq, contributed]

/-- The entries of a list stand for its items, one for each. An item is stored just
when it is a line, which has its parts in one way only and a single colon between them,
and the last line about a class decides. -/
theorem ofDocument_items (items : List Value) :
    let load (mode : Mode) : Loading :=
      ofDocument mode (.mapping [(.text rulesName, .list items)])
    List.Forall₂ Value.Yields items (Rules.lines items).entries ∧
    (∀ (item : Value) (key : String) (config : Config),
      (Entry.ofLine item).Stores key config ↔
        ∃ line : EntryLine, item = .text (String.ofList line.text) ∧
          key = String.ofList line.key.content ∧
          Config.loadTaint (String.ofList line.summary.content) = .ok config) ∧
    (∀ line : EntryLine,
      line.text.count ':' = 1 ∧
      (∀ other : EntryLine, other.text = line.text → other = line) ∧
      ((∃ config, Config.loadTaint (String.ofList line.summary.content) = .ok config) ↔
        ∃ word immutable, SummaryParts line.summary.content word immutable ∧
          (word = [] ∨ TaintState.enumeration.HasName (String.ofList word)))) ∧
    (∀ content : String, 2 ≤ content.toList.count ':' →
      accepts (Entry.ofLine (.text content)).key
        (Entry.ofLine (.text content)).summary = false) ∧
    ((∀ item ∈ items, ∃ content, item = .text content) →
      ∃ catalog, (load .lenient).outcome = .ok catalog) ∧
    ∀ mode catalog,
      ((load mode).outcome = .ok catalog → ∀ key config,
        Table.get? key catalog = some config ↔
          ∃ before item after, items = before ++ item :: after ∧
            item.Contributes key config ∧
            ∀ later ∈ after, ∀ other, ¬ later.Contributes key other) ∧
      ((load mode).outcome = .ok catalog ↔
        (ofEntries mode (items.map (Entry.ofLineWith (splitAtFirst ':')))).outcome =
          .ok catalog) := by
  intro load
  have last := splits_splitAtLast ':'
  refine ⟨?entries, fun _ _ _ => Entry.stores_ofLine_iff, ?lines, ?colons,
    ?texts, ?stored⟩
  case entries =>
    rw [Rules.entries, List.forall₂_map_right_iff, List.forall₂_same]
    exact fun item _ => item.yields_ofLine
  case lines =>
    intro line
    exact ⟨line.count_colon, fun _ => EntryLine.eq_of_text, line.loads_iff⟩
  case colons =>
    intro content several
    rw [Entry.ofLine_eq_ofLineWith]
    exact Entry.not_accepts_of_two_colons last several
  case texts =>
    intro texts
    simp only [load, ofDocument_list, exists_storeAll_lenient_iff, List.forall_mem_map]
    intro item member
    obtain ⟨content, rfl⟩ := texts item member
    rw [Entry.ofLine_eq_ofLineWith]
    exact Entry.isReportable_ofLineWith_text content
  case stored =>
    intro mode catalog
    simp only [load, ofDocument_list]
    refine ⟨fun loaded _ _ => get?_of_items loaded, ?_⟩
    rw [Entry.ofLine_eq_ofLineWith]
    exact outcome_ofLineWith last (splits_splitAtFirst ':')

/-- A line with blanks in all four places, and one that would name a class behind its
first colon. -/
theorem ofDocument_items_blanks :
    let items : List Value := [.text "\tI\u3000: SAFE#IMMUTABLE\n", .text "I:J:NULL"]
    let document : Value := .mapping [(.text rulesName, .list items)]
    let safe : State := ⟨TaintState.enumeration, ⟨"SAFE", .text "SAFE"⟩, by decide⟩
    accepts (.text "I:J") (.text "NULL") = false ∧
      ∃ catalog, (ofDocument .lenient document).outcome = .ok catalog ∧
        Table.get? "I" catalog = some ⟨safe, true, TaintState.null⟩ ∧
        (ofEntries .lenient (items.map (Entry.ofLineWith (splitAtFirst ':')))).outcome =
          .ok catalog := by
  intro items document safe
  obtain ⟨-, stores, -, colons, texts, stored⟩ := ofDocument_items items
  have refused := colons "I:J:NULL" (by decide)
  obtain ⟨catalog, loaded⟩ := texts (by simp [items])
  let line : EntryLine :=
    ⟨⟨['\t'], ['I'], ['\u3000'], by decide, by decide⟩,
      ⟨[' '], "SAFE#IMMUTABLE".toList, ['\n'], by decide, by decide⟩, by decide, by decide⟩
  refine ⟨refused, catalog, loaded, ?_, ((stored _ _).2).mp loaded⟩
  refine ((stored _ _).1 loaded _ _).mpr ⟨[], _, [_], rfl, ⟨line, ?_, ?_, ?_⟩, ?_⟩
  · exact congrArg Value.text (by decide)
  · decide
  · decide
  · intro later member other contributes
    rw [List.mem_singleton.mp member] at contributes
    cases ((stores _ _ _).mpr contributes).form.symm.trans refused

end Catalog

end ClassTaint
