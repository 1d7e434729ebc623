import ClassTaint.Proofs.Catalog.Storing
import ClassTaint.Proofs.Descriptor.Spelling
import ClassTaint.Proofs.Value.Writing

namespace ClassTaint

/-! What a lenient run leaves in the catalog. Each key stands where its first
valid entry is, and has the configuration of its last one. -/

namespace Entry

variable {entry : Entry} {key : String} {config : Config}

theorem Stores.isDescriptor_key (stores : entry.Stores key config) :
    isDescriptor key.toList = true := by
  obtain ⟨_, _, same, -, written, -⟩ := exists_text_of_accepts stores.form
  cases stores.key.symm.trans same
  exact written

theorem Stores.config_fields (stores : entry.Stores key config) :
    config.defaultState = TaintState.null ∧
      config.taintState.enumeration = TaintState.enumeration := by
  obtain ⟨_, text, -, summaryText, -, -⟩ := exists_text_of_accepts stores.form
  have loaded := stores.config
  rw [summaryText, Value.loadTaint_text_eq_ok_iff] at loaded
  obtain ⟨-, standard, word, -, form⟩ := Config.load_eq_ok_iff.mp loaded
  refine ⟨standard, ?_⟩
  rcases form with ⟨-, unset⟩ | ⟨-, denotes⟩
  · rw [unset]
    rfl
  · exact denotes.enumeration

theorem isReportable_iff_isWrittenWithin :
    entry.IsReportable ↔ (accepts entry.key entry.summary = false →
      entry.key.IsWrittenWithin deepestWriting ∧
        entry.summary.IsWrittenWithin deepestWriting) := by
  rw [IsReportable, Value.isWritable_iff, Value.isWritable_iff]

end Entry

namespace Catalog

theorem find?_of_isDescriptor {key : String}
    (written : isDescriptor key.toList = true) (catalog : Catalog) :
    catalog.find? key = catalog.get? key := by
  rw [find?, spelledDescriptor_of_isDescriptor written, String.ofList_toList]

variable {entries : List Entry} {key : String} {config : Config}

theorem get?_valid_eq_some_iff :
    Table.get? key (Table.ofEntries (entries.filterMap Entry.valid?)) =
        some config ↔
      ∃ before entry after, entries = before ++ entry :: after ∧
        entry.Stores key config ∧
        ∀ later ∈ after, ∀ other, ¬ later.Stores key other := by
  simp only [Table.get?_ofEntries_filterMap_eq_some_iff, ne_eq,
    Entry.valid?_eq_some_iff]

theorem stores_of_get?_valid
    (found : Table.get? key (Table.ofEntries (entries.filterMap Entry.valid?)) =
      some config) : ∃ entry ∈ entries, entry.Stores key config := by
  obtain ⟨before, entry, after, shape, stores, -⟩ :=
    get?_valid_eq_some_iff.mp found
  refine ⟨entry, ?_, stores⟩
  rw [shape]
  exact List.mem_append_right before List.mem_cons_self

/-- Entries that are not valid might as well not be there. -/
theorem outcome_storeAll_valid (entries : List Entry) :
    (storeAll .lenient []
        (entries.filter fun entry => entry.valid?.isSome)).outcome =
      .ok (Table.ofEntries (entries.filterMap Entry.valid?)) := by
  rw [outcome_storeAll_of_reportable]
  · have same : (fun entry : Entry =>
        if entry.valid?.isSome then entry.valid? else none) = Entry.valid? := by
      funext entry
      cases entry.valid? <;> rfl
    rw [List.filterMap_filter, same]
    rfl
  · intro entry member
    obtain ⟨⟨key, config⟩, valid⟩ :=
      Option.isSome_iff_exists.mp (List.mem_filter.mp member).2
    exact Entry.isReportable_of_read_ok (Entry.valid?_eq_some_iff.mp valid).read_eq

/-- A lenient run over rules comes to a catalog just when every entry without the
form of entries can be reported, with all that is met in writing it. Then the last valid
entry under a key decides. Else the run fails with the first fault that is in the way of
a message. -/
theorem ofDocument_lenient_lastEntry (rules : Rules) :
    let document := Value.mapping [(.text rulesName, rules.toValue)]
    let outcome := (ofDocument .lenient document).outcome
    ((∃ catalog, outcome = .ok catalog) ↔
      ∀ entry ∈ rules.entries, entry.IsReportable) ∧
    (∀ entry ∈ rules.entries, entry.IsReportable ↔
      (accepts entry.key entry.summary = false →
        entry.key.IsWrittenWithin deepestWriting ∧
          entry.summary.IsWrittenWithin deepestWriting)) ∧
    (∀ error, outcome = .error error ↔
      ∃ fault, rules.entries.findSome? Entry.writingFault? = some fault ∧
        error = .ofWriting fault) ∧
    ∀ catalog, outcome = .ok catalog →
      Table.keys catalog =
        (Table.keys (rules.entries.filterMap Entry.valid?)).eraseDups ∧
      (Table.keys catalog).Nodup ∧
      (∀ key config, Table.get? key catalog = some config ↔
        ∃ before entry after, rules.entries = before ++ entry :: after ∧
          entry.Stores key config ∧
          ∀ later ∈ after, ∀ other, ¬ later.Stores key other) ∧
      (storeAll .lenient []
        (rules.entries.filter fun entry => entry.valid?.isSome)).outcome =
          .ok catalog ∧
      ∀ key ∈ Table.keys catalog, isDescriptor key.toList = true ∧
        ∃ config, Table.get? key catalog = some config ∧
          find? catalog key = some config ∧
          config.defaultState = TaintState.null ∧
          config.taintState.enumeration = TaintState.enumeration := by
  intro document outcome
  have found := Rules.ofDocument_singleton rules rulesName
  rcases outcome_ofDocument_lenient found with
    ⟨reportable, loaded⟩ | ⟨fault, first, failed⟩
  · change outcome = _ at loaded
    rw [loaded, findSome?_writingFault_eq_none_iff.mpr reportable]
    refine ⟨⟨fun _ => reportable, fun _ => ⟨_, rfl⟩⟩,
      fun _ _ => Entry.isReportable_iff_isWrittenWithin, fun _ => ⟨nofun, nofun⟩, ?_⟩
    intro catalog same
    cases same
    refine ⟨Table.keys_ofEntries _, Table.nodup_keys_ofEntries _,
      fun key config => get?_valid_eq_some_iff,
      outcome_storeAll_valid rules.entries, ?_⟩
    intro key member
    obtain ⟨config, present⟩ := Table.mem_keys_iff.mp member
    obtain ⟨entry, -, stores⟩ := stores_of_get?_valid present
    have written := stores.isDescriptor_key
    refine ⟨written, config, present, ?_, stores.config_fields⟩
    rw [find?_of_isDescriptor written]
    exact present
  · change outcome = _ at failed
    rw [failed, first]
    refine ⟨⟨nofun, ?_⟩, fun _ _ => Entry.isReportable_iff_isWrittenWithin, ?_, nofun⟩
    · intro reportable
      cases first.symm.trans (findSome?_writingFault_eq_none_iff.mpr reportable)
    · intro error
      constructor
      · intro same
        exact ⟨fault, rfl, (Except.error.inj same).symm⟩
      · rintro ⟨_, same, rfl⟩
        cases same
        rfl

theorem ofDocument_lenient_longNumber :
    ¬ ∃ catalog, (ofDocument .lenient (.mapping [(.text rulesName,
      .list [.text "I:SAFE", .integer (.ofNat Number.leastUnwritable)])])).outcome =
        .ok catalog := by
  let rules : Rules :=
    .lines [.text "I:SAFE", .integer (.ofNat Number.leastUnwritable)]
  have member : Entry.ofLine (.integer (.ofNat Number.leastUnwritable)) ∈
      rules.entries := List.mem_cons_of_mem _ List.mem_cons_self
  rintro ⟨catalog, loaded⟩
  rcases outcome_ofDocument_lenient (Rules.ofDocument_singleton rules rulesName) with
    ⟨reportable, -⟩ | ⟨fault, -, failed⟩
  · have fine := Entry.isReportable_iff.mp (reportable _ member)
    cases Entry.writingFault?_longNumber.symm.trans fine
  · cases failed.symm.trans loaded

/-- Lists in a list are reported and passed over, down to the depth that can be written. -/
theorem outcome_ofDocument_nestedList (depth : Nat) :
    (ofDocument .lenient (.mapping [(.text rulesName,
      .list [.nestedList depth])])).outcome =
        if depth < deepestWriting then .ok [] else .error .tooDeep := by
  have refused : accepts (.nestedList depth) .null = false := Bool.and_false _
  have line : Entry.ofLine (.nestedList depth) = ⟨.nestedList depth, .null⟩ := by
    cases depth <;> rfl
  have fault : Entry.writingFault? ⟨.nestedList depth, .null⟩ = _ :=
    Entry.writingFault?_of_not_accepts refused
  rw [Value.writingFault?_nestedList, Value.writingFault?_null, Option.or_none] at fault
  have loading := ofDocument_toValue (.lines [.nestedList depth]) .lenient
  rw [Rules.toValue, Rules.entries, List.map_singleton, line] at loading
  have unstored : Entry.valid? ⟨.nestedList depth, .null⟩ = none :=
    Entry.valid?_of_read_error (Entry.read_of_not_accepts refused)
  rw [loading, outcome_storeAll_lenient, List.findSome?_singleton, fault,
    List.filterMap_cons_none unstored]
  by_cases fits : depth < deepestWriting
  · rw [if_pos fits, if_pos fits]
    rfl
  · rw [if_neg fits, if_neg fits]
    rfl

end Catalog

end ClassTaint
