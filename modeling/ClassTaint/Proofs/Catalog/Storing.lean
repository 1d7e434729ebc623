import ClassTaint.Catalog
import ClassTaint.Proofs.Catalog.Entry
import ClassTaint.Proofs.Table.Update

namespace ClassTaint

/-! Storing entries one after the other. A lenient run that comes to its end has
put in the valid entries and nothing else. -/

/-- What a run gives can be checked by running it. -/
theorem exists_ok_of_check {ε α : Type} {outcome : Except ε α} {check : α → Bool}
    (evaluated : (match outcome with
      | .ok value => check value
      | .error _ => false) = true) :
    ∃ value, outcome = .ok value ∧ check value = true := by
  cases outcome with
  | ok value => exact ⟨value, rfl, evaluated⟩
  | error error => cases evaluated

namespace Loading

@[simp] theorem outcome_note (record : Record) (loading : Loading) :
    (loading.note record).outcome = loading.outcome := rfl

@[simp] theorem log_note (record : Record) (loading : Loading) :
    (loading.note record).log = record :: loading.log := rfl

end Loading

/-- Where a record in the log of a run over these entries comes from. -/
inductive Record.ComesFrom (entries : List Entry) : Record → Prop
  | skipped {entry : Entry} {error : EntryError} (member : entry ∈ entries)
      (failed : entry.read = .error error) : ComesFrom entries (.skipped error)
  | duplicate {entry : Entry} {key : String} {config : Config}
      (member : entry ∈ entries) (read : entry.read = .ok (key, config)) :
      ComesFrom entries (.duplicate key)
  | loaded (count : Nat) : ComesFrom entries (.loaded count)

theorem Record.ComesFrom.cons {entries : List Entry} {record : Record}
    (comes : record.ComesFrom entries) (entry : Entry) :
    record.ComesFrom (entry :: entries) := by
  cases comes with
  | skipped member failed => exact .skipped (List.mem_cons_of_mem _ member) failed
  | duplicate member read => exact .duplicate (List.mem_cons_of_mem _ member) read
  | loaded count => exact .loaded count

theorem Value.text_beq_self (content : String) :
    (Value.text content == .text content) = true :=
  beq_self_eq_true content

namespace Rules

theorem ofValue?_toValue (rules : Rules) : ofValue? rules.toValue = some rules := by
  cases rules <;> rfl

theorem ofDocument_singleton (rules : Rules) (name : String) :
    ofDocument (.mapping [(.text name, rules.toValue)]) name = .ok rules := by
  have found : Table.get? (Value.text name) [(.text name, rules.toValue)] =
      some rules.toValue := if_pos (Value.text_beq_self name)
  simp only [ofDocument, found, ofValue?_toValue]

end Rules

namespace Catalog

variable {mode : Mode} {catalog : Catalog} {entry : Entry} {rest : List Entry}

section Steps

variable {key : String} {config : Config} {error : EntryError}

theorem storeAll_of_valid (read : entry.read = .ok (key, config)) :
    storeAll mode catalog (entry :: rest) =
      if catalog.contains key then
        (storeAll mode (catalog.put key config) rest).note (.duplicate key)
      else
        storeAll mode (catalog.put key config) rest := by
  rw [storeAll, read]

theorem storeAll_lenient_of_error (failed : entry.read = .error error)
    (writable : error.writingFault? = none) :
    storeAll .lenient catalog (entry :: rest) =
      (storeAll .lenient catalog rest).note (.skipped error) := by
  simp only [storeAll, failed, writable]

theorem storeAll_strict_of_error (failed : entry.read = .error error)
    (writable : error.writingFault? = none) :
    storeAll .strict catalog (entry :: rest) = ⟨.error (.entry error), []⟩ := by
  simp only [storeAll, failed, writable]

theorem storeAll_of_unwritable {fault : WritingFault}
    (failed : entry.read = .error error)
    (unwritable : error.writingFault? = some fault) :
    storeAll mode catalog (entry :: rest) = ⟨.error (.ofWriting fault), []⟩ := by
  simp only [storeAll, failed, unwritable]

theorem outcome_storeAll_of_valid (read : entry.read = .ok (key, config)) :
    (storeAll mode catalog (entry :: rest)).outcome =
      (storeAll mode (catalog.put key config) rest).outcome := by
  rw [storeAll_of_valid read]
  split <;> rfl

end Steps

/-- What is noted is about an entry, unless it is the end of the run. -/
theorem comesFrom_of_noted {entries : List Entry} {record : Record}
    (noted : record ∈ (storeAll mode catalog entries).log) :
    record.ComesFrom entries := by
  induction entries generalizing catalog with
  | nil =>
      rw [List.mem_singleton.mp noted]
      exact .loaded _
  | cons entry rest induction =>
      cases entry.reading with
      | valid read =>
          rw [storeAll_of_valid read] at noted
          split at noted
          · rw [Loading.log_note] at noted
            rcases List.mem_cons.mp noted with rfl | inRest
            · exact .duplicate List.mem_cons_self read
            · exact (induction inRest).cons entry
          · exact (induction noted).cons entry
      | skipped failed writable =>
          cases mode with
          | strict =>
              rw [storeAll_strict_of_error failed writable] at noted
              cases noted
          | lenient =>
              rw [storeAll_lenient_of_error failed writable,
                Loading.log_note] at noted
              rcases List.mem_cons.mp noted with rfl | inRest
              · exact .skipped List.mem_cons_self failed
              · exact (induction inRest).cons entry
      | unreportable failed unwritable =>
          rw [storeAll_of_unwritable failed unwritable] at noted
          cases noted

/-- Only what kept an entry from being stored is noted as skipped. -/
theorem exists_entry_of_skipped {entries : List Entry} {error : EntryError}
    (noted : .skipped error ∈ (storeAll .lenient catalog entries).log) :
    ∃ entry ∈ entries, entry.read = .error error := by
  cases comesFrom_of_noted noted with
  | skipped member failed => exact ⟨_, member, failed⟩

theorem storeAll_error_cases {entries : List Entry} {reason : CatalogError}
    (failed : (storeAll mode catalog entries).outcome = .error reason) :
    (∃ fault, reason = .ofWriting fault) ∨
      ∃ entry ∈ entries, ∃ error, entry.read = .error error ∧ reason = .entry error := by
  induction entries generalizing catalog with
  | nil => cases failed
  | cons entry rest induction =>
      have later : ∀ {catalog : Catalog},
          (storeAll mode catalog rest).outcome = .error reason →
            (∃ fault, reason = .ofWriting fault) ∨ ∃ other ∈ entry :: rest, ∃ error,
              other.read = .error error ∧ reason = .entry error := by
        intro catalog inRest
        apply (induction inRest).imp_right
        intro found
        obtain ⟨other, member, others⟩ := found
        exact ⟨other, List.mem_cons_of_mem _ member, others⟩
      cases entry.reading with
      | valid read =>
          rw [outcome_storeAll_of_valid read] at failed
          exact later failed
      | skipped unread writable =>
          cases mode with
          | strict =>
              rw [storeAll_strict_of_error unread writable] at failed
              cases failed
              exact .inr ⟨entry, List.mem_cons_self, _, unread, rfl⟩
          | lenient =>
              rw [storeAll_lenient_of_error unread writable,
                Loading.outcome_note] at failed
              exact later failed
      | unreportable unread unwritable =>
          rw [storeAll_of_unwritable unread unwritable] at failed
          cases failed
          exact .inl ⟨_, rfl⟩

/-- A lenient run stops where an entry cannot be reported, and else it has put in what
is valid. -/
theorem outcome_storeAll_lenient (catalog : Catalog) (entries : List Entry) :
    (storeAll .lenient catalog entries).outcome =
      match entries.findSome? Entry.writingFault? with
      | some fault => .error (.ofWriting fault)
      | none => .ok (Table.update catalog (entries.filterMap Entry.valid?)) := by
  induction entries generalizing catalog with
  | nil => rfl
  | cons entry rest induction =>
      rw [List.findSome?_cons]
      cases entry.reading with
      | valid read =>
          rw [outcome_storeAll_of_valid read, induction,
            Entry.writingFault?_of_read_ok read,
            List.filterMap_cons_some (Entry.valid?_of_read_ok read),
            Table.update_cons]
      | skipped failed writable =>
          rw [storeAll_lenient_of_error failed writable, Loading.outcome_note, induction,
            Entry.writingFault?_of_read_error failed, writable,
            List.filterMap_cons_none (Entry.valid?_of_read_error failed)]
      | unreportable failed unwritable =>
          rw [storeAll_of_unwritable failed unwritable,
            Entry.writingFault?_of_read_error failed, unwritable]

theorem findSome?_writingFault_eq_none_iff {entries : List Entry} :
    entries.findSome? Entry.writingFault? = none ↔
      ∀ entry ∈ entries, entry.IsReportable := by
  simp only [List.findSome?_eq_none_iff, Entry.isReportable_iff]

theorem outcome_storeAll_of_reportable {entries : List Entry}
    (reportable : ∀ entry ∈ entries, entry.IsReportable) :
    (storeAll .lenient catalog entries).outcome =
      .ok (Table.update catalog (entries.filterMap Entry.valid?)) := by
  rw [outcome_storeAll_lenient, findSome?_writingFault_eq_none_iff.mpr reportable]

theorem outcome_storeAll_of_fault {entries : List Entry} {fault : WritingFault}
    (found : entries.findSome? Entry.writingFault? = some fault) :
    (storeAll .lenient catalog entries).outcome = .error (.ofWriting fault) := by
  rw [outcome_storeAll_lenient, found]

section Documents

variable {document : Value} {rules : Rules}

theorem ofDocument_of_rules
    (found : Rules.ofDocument document rulesName = .ok rules) (mode : Mode) :
    ofDocument mode document = storeAll mode [] rules.entries := by
  rw [ofDocument, found]
  rfl

theorem ofDocument_toValue (rules : Rules) (mode : Mode) :
    ofDocument mode (.mapping [(.text rulesName, rules.toValue)]) =
      storeAll mode [] rules.entries :=
  ofDocument_of_rules (Rules.ofDocument_singleton rules rulesName) mode

theorem ofDocument_of_rulesError {error : RulesError}
    (failed : Rules.ofDocument document rulesName = .error error)
    (mode : Mode) : ofDocument mode document = ⟨.error (.rules error), []⟩ := by
  rw [ofDocument, failed]

/-- A lenient run over rules comes to a catalog or to an entry that cannot be
reported, and the first alone is the case when there is no such entry. -/
theorem outcome_ofDocument_lenient
    (found : Rules.ofDocument document rulesName = .ok rules) :
    ((∀ entry ∈ rules.entries, entry.IsReportable) ∧
        (ofDocument .lenient document).outcome =
          .ok (Table.ofEntries (rules.entries.filterMap Entry.valid?))) ∨
      ∃ fault, rules.entries.findSome? Entry.writingFault? = some fault ∧
        (ofDocument .lenient document).outcome = .error (.ofWriting fault) := by
  rw [ofDocument_of_rules found]
  cases first : rules.entries.findSome? Entry.writingFault? with
  | none =>
      have reportable := findSome?_writingFault_eq_none_iff.mp first
      exact .inl ⟨reportable, outcome_storeAll_of_reportable reportable⟩
  | some fault => exact .inr ⟨fault, rfl, outcome_storeAll_of_fault first⟩

theorem rulesError_of_outcome {reason : RulesError}
    (failed : (ofDocument .lenient document).outcome = .error (.rules reason)) :
    Rules.ofDocument document rulesName = .error reason := by
  cases found : Rules.ofDocument document rulesName with
  | ok rules =>
      rcases outcome_ofDocument_lenient found with ⟨-, loaded⟩ | ⟨fault, -, unwritable⟩
      · cases failed.symm.trans loaded
      · cases fault <;> cases failed.symm.trans unwritable
  | error other =>
      rw [ofDocument_of_rulesError found] at failed
      cases failed
      rfl

theorem exists_read_of_skipped {error : EntryError}
    (noted : .skipped error ∈ (ofDocument .lenient document).log) :
    ∃ entry : Entry, entry.read = .error error := by
  cases found : Rules.ofDocument document rulesName with
  | ok rules =>
      rw [ofDocument_of_rules found] at noted
      obtain ⟨entry, -, failed⟩ := exists_entry_of_skipped noted
      exact ⟨entry, failed⟩
  | error reason =>
      rw [ofDocument_of_rulesError found] at noted
      cases noted

end Documents

end Catalog

end ClassTaint
