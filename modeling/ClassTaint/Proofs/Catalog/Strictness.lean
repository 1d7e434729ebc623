import ClassTaint.Proofs.Catalog.Storing

namespace ClassTaint

/-! A strict run against the lenient run over the same document. The log of the
lenient run tells what the strict run comes to: its first warning is the error,
and what stands before the warning is the log. -/

/-- The first skipped entry of a log, with what was noted before it. -/
def firstSkip? : List Record → Option (List Record × EntryError)
  | [] => none
  | .skipped error :: _ => some ([], error)
  | record :: rest =>
      match firstSkip? rest with
      | some (before, error) => some (record :: before, error)
      | none => none

/-- Loading that stops where the first entry is skipped. -/
def Loading.interrupted (loading : Loading) : Loading :=
  match firstSkip? loading.log with
  | some (before, error) => ⟨.error (.entry error), before⟩
  | none => loading

theorem firstSkip?_of_quiet {log : List Record}
    (quiet : ∀ record ∈ log, record.level ≠ .warning) : firstSkip? log = none := by
  induction log with
  | nil => rfl
  | cons record rest induction =>
      obtain ⟨first, others⟩ := List.forall_mem_cons.mp quiet
      cases record with
      | skipped error => exact absurd rfl first
      | _ => simp [firstSkip?, induction others]

theorem firstSkip?_append {before : List Record}
    (quiet : ∀ record ∈ before, record.level ≠ .warning) (error : EntryError)
    (after : List Record) :
    firstSkip? (before ++ .skipped error :: after) = some (before, error) := by
  induction before with
  | nil => rfl
  | cons record rest induction =>
      obtain ⟨first, others⟩ := List.forall_mem_cons.mp quiet
      cases record with
      | skipped error => exact absurd rfl first
      | _ => simp [firstSkip?, induction others]

namespace Loading

theorem interrupted_of_quiet {loading : Loading}
    (quiet : ∀ record ∈ loading.log, record.level ≠ .warning) :
    loading.interrupted = loading := by
  rw [interrupted, firstSkip?_of_quiet quiet]

theorem interrupted_of_skip {loading : Loading} {before after : List Record}
    {error : EntryError} (log : loading.log = before ++ .skipped error :: after)
    (quiet : ∀ record ∈ before, record.level ≠ .warning) :
    loading.interrupted = ⟨.error (.entry error), before⟩ := by
  rw [interrupted, log, firstSkip?_append quiet]

theorem interrupted_note_duplicate (key : String) (loading : Loading) :
    (loading.note (.duplicate key)).interrupted =
      loading.interrupted.note (.duplicate key) := by
  simp only [interrupted, log_note, firstSkip?]
  cases firstSkip? loading.log <;> rfl

theorem outcome_of_interrupted {loading : Loading} {catalog : Catalog}
    (loaded : loading.interrupted.outcome = .ok catalog) :
    loading.outcome = .ok catalog := by
  unfold interrupted at loaded
  cases skip : firstSkip? loading.log with
  | none =>
      rw [skip] at loaded
      exact loaded
  | some found =>
      rw [skip] at loaded
      cases loaded

end Loading

theorem Record.exists_skipped {record : Record}
    (warning : record.level = .warning) : ∃ error, record = .skipped error := by
  cases record with
  | skipped error => exact ⟨error, rfl⟩
  | duplicate key => cases warning
  | loaded count => cases warning

/-- The warning and the error are put into words apart, in the same words. -/
theorem Record.message_skipped (error : EntryError) (path : String) :
    message path (.skipped error) = error.message ++ ", skipped" := by
  cases error with
  | invalid key summary => rfl
  | badSummary key error => rfl

namespace EntryError

theorem exists_message_invalid (key summary : Value) :
    ∃ rest, (invalid key summary).message =
      "Invalid class summary entry " ++ rest := by
  refine ⟨key.render ++ ": " ++ summary.render, ?_⟩
  change "Invalid class summary entry " ++ key.render ++ ": " ++ summary.render = _
  simp only [String.append_assoc]

theorem exists_message_badSummary (key : String) (error : SummaryError) :
    ∃ rest, (badSummary key error).message = "Bad class summary for " ++ rest := by
  refine ⟨key ++ ": " ++ error.message, ?_⟩
  change "Bad class summary for " ++ key ++ ": " ++ error.message = _
  simp only [String.append_assoc]

/-- How a warning starts tells whether a summary is behind it. -/
theorem cause?_iff_warning {entry : Entry} {error : EntryError}
    (failed : entry.read = .error error) (path : String) :
    ((∃ token, (CatalogError.entry error).cause? = some (.unknownState token)) ↔
        "Bad class summary for".toList <+:
          (Record.message path (.skipped error)).toList) ∧
      ((CatalogError.entry error).cause? = none ↔
        "Invalid class summary entry".toList <+:
          (Record.message path (.skipped error)).toList) := by
  rw [Record.message_skipped]
  rcases entry.read_cases with ⟨-, same⟩ | ⟨key, token, -, same⟩ | ⟨_, _, -, same⟩
  · cases failed.symm.trans same
    obtain ⟨rest, shape⟩ := exists_message_invalid entry.key entry.summary
    rw [shape, String.append_assoc]
    simp [CatalogError.cause?]
  · cases failed.symm.trans same
    obtain ⟨rest, shape⟩ := exists_message_badSummary key (.unknownState token)
    rw [shape, String.append_assoc]
    simp [CatalogError.cause?]
  · cases failed.symm.trans same

end EntryError

namespace Catalog

/-- Both runs put in the same entries until the first one is skipped. -/
theorem storeAll_strict (catalog : Catalog) (entries : List Entry) :
    storeAll .strict catalog entries =
      (storeAll .lenient catalog entries).interrupted := by
  -- Up to the first skipped entry both runs hold the same catalog, whatever it is.
  induction entries generalizing catalog with
  | nil => rfl
  | cons entry rest induction =>
      cases entry.reading with
      | valid read =>
          rw [storeAll_of_valid read, storeAll_of_valid read, induction]
          split
          · rw [Loading.interrupted_note_duplicate]
          · rfl
      | skipped failed writable =>
          rw [storeAll_strict_of_error failed writable,
            storeAll_lenient_of_error failed writable]
          rfl
      | unreportable failed unwritable =>
          rw [storeAll_of_unwritable failed unwritable,
            storeAll_of_unwritable failed unwritable]
          rfl

theorem ofDocument_strict (document : Value) :
    ofDocument .strict document = (ofDocument .lenient document).interrupted := by
  cases found : Rules.ofDocument document rulesName with
  | ok rules =>
      rw [ofDocument_of_rules found, ofDocument_of_rules found, storeAll_strict]
  | error error =>
      rw [ofDocument_of_rulesError found, ofDocument_of_rulesError found]
      rfl

/-- What a strict run comes to can be told from the lenient run. The two fail
alike when every entry can be reported, and else the lenient run may fail where
the strict one has stopped before. -/
theorem ofDocument_strict_of_lenient (document : Value) :
    let lenient := ofDocument .lenient document
    let strict := ofDocument .strict document
    ((∀ error, lenient.outcome = .error error →
        (∃ reason, error = .rules reason) ∧ lenient.log = [] ∧ strict = lenient) ↔
      ∀ rules, Rules.ofDocument document rulesName = .ok rules →
        ∀ entry ∈ rules.entries, entry.IsReportable) ∧
    (∀ reason, lenient.outcome = .error (.rules reason) →
      lenient.log = [] ∧ strict = lenient) ∧
    ((∀ record ∈ lenient.log, record.level ≠ .warning) → strict = lenient) ∧
    ∀ before record after, lenient.log = before ++ record :: after →
      (∀ earlier ∈ before, earlier.level ≠ .warning) →
      record.level = .warning →
      ∃ error : EntryError, strict = ⟨.error (.entry error), before⟩ ∧
        ∀ path,
          record.message path =
            (CatalogError.entry error).message ++ ", skipped" ∧
          ((∃ token,
              (CatalogError.entry error).cause? = some (.unknownState token)) ↔
            "Bad class summary for".toList <+: (record.message path).toList) ∧
          ((CatalogError.entry error).cause? = none ↔
            "Invalid class summary entry".toList <+:
              (record.message path).toList) := by
  intro lenient strict
  have related : strict = lenient.interrupted := ofDocument_strict document
  have stopped : ∀ reason, Rules.ofDocument document rulesName = .error reason →
      lenient.outcome = .error (.rules reason) ∧ lenient.log = [] ∧
        strict = lenient := by
    intro reason failed
    have alone := ofDocument_of_rulesError failed .lenient
    refine ⟨congrArg Loading.outcome alone, congrArg Loading.log alone, ?_⟩
    exact (ofDocument_of_rulesError failed .strict).trans alone.symm
  refine ⟨⟨?reportable, ?agrees⟩, ?rules, ?quiet, ?warned⟩
  case reportable =>
    intro agrees rules found
    rcases outcome_ofDocument_lenient found with ⟨reportable, -⟩ | ⟨fault, -, failed⟩
    · exact reportable
    · obtain ⟨⟨reason, same⟩, -⟩ := agrees _ failed
      cases fault <;> cases same
  case agrees =>
    intro reportable error failed
    cases found : Rules.ofDocument document rulesName with
    | ok rules =>
        rcases outcome_ofDocument_lenient found with ⟨-, loaded⟩ | ⟨fault, first, -⟩
        · cases failed.symm.trans loaded
        · have none := findSome?_writingFault_eq_none_iff.mpr (reportable rules found)
          cases first.symm.trans none
    | error reason =>
        obtain ⟨outcome, rest⟩ := stopped reason found
        cases failed.symm.trans outcome
        exact ⟨⟨reason, rfl⟩, rest⟩
  case rules =>
    intro reason failed
    exact (stopped reason (rulesError_of_outcome failed)).2
  case quiet =>
    intro quiet
    rw [related]
    exact Loading.interrupted_of_quiet quiet
  case warned =>
    intro before record after log quiet warning
    obtain ⟨error, rfl⟩ := Record.exists_skipped warning
    have noted : .skipped error ∈ lenient.log := by
      rw [log]
      exact List.mem_append_right before List.mem_cons_self
    obtain ⟨entry, failed⟩ := exists_read_of_skipped noted
    refine ⟨error, ?_, ?_⟩
    · rw [related]
      exact Loading.interrupted_of_skip log quiet
    · intro path
      exact ⟨Record.message_skipped error path,
        EntryError.cause?_iff_warning failed path⟩

/-- A line without a colon, and then a number that is just too long: the lenient
run goes past the line and fails later than the strict one. -/
theorem ofDocument_strict_ne_lenient :
    let document := Value.mapping [(.text rulesName,
      .list [.text "V", .integer (.ofNat Number.leastUnwritable)])]
    (ofDocument .lenient document).outcome = .error .unwritable ∧
      (ofDocument .lenient document).log ≠ [] ∧
      (ofDocument .strict document).outcome ≠
        (ofDocument .lenient document).outcome := by
  intro document
  let rules : Rules := .lines [.text "V", .integer (.ofNat Number.leastUnwritable)]
  have found : Rules.ofDocument document rulesName = .ok rules :=
    Rules.ofDocument_singleton rules rulesName
  have line : Entry.ofLine (.text "V") = ⟨.text "V", .null⟩ := by
    have plain : splitAtLast ':' "V".toList = none :=
      splitAtLast_eq_none_iff.mpr (by decide)
    rw [Entry.ofLine, plain]
  have skipped : (Entry.ofLine (.text "V")).read =
      .error (.invalid (.text "V") .null) := by
    rw [line]
    rfl
  have writable : (EntryError.invalid (.text "V") .null).writingFault? = none := rfl
  have fine : (Entry.ofLine (.text "V")).writingFault? = none :=
    (Entry.writingFault?_of_read_error skipped).trans writable
  have first : rules.entries.findSome? Entry.writingFault? = some .longNumber := by
    simp only [rules, Rules.entries, List.map_cons, List.findSome?_cons, fine,
      Entry.writingFault?_longNumber]
  have failed : (ofDocument .lenient document).outcome = .error .unwritable := by
    rw [ofDocument_of_rules found]
    exact outcome_storeAll_of_fault first
  refine ⟨failed, ?_, ?_⟩
  · rw [ofDocument_of_rules found, Rules.entries, List.map_cons,
      storeAll_lenient_of_error skipped writable]
    exact List.cons_ne_nil _ _
  · rw [failed, ofDocument_of_rules found, Rules.entries, List.map_cons,
      storeAll_strict_of_error skipped writable]
    intro same
    cases same

end Catalog

end ClassTaint
