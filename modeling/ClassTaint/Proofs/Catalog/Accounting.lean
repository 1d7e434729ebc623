import ClassTaint.Proofs.Catalog.LastEntry
import ClassTaint.Proofs.Catalog.Strictness
import ClassTaint.Proofs.Text.Quoting
import Mathlib.Data.List.ReduceOption

namespace ClassTaint

/-! What a lenient run notes. Every entry is stored under a new key, noted as a
duplicate, or noted as skipped, so the log and the catalog account for all of
them. -/

namespace Record

def isDuplicate : Record → Bool
  | duplicate _ => true
  | _ => false

/-- How a record is written, whatever the path of the catalog is. -/
def IsWritten (record : Record) (level : Level) (text : String) : Prop :=
  record.level = level ∧ ∀ path, record.message path = text

theorem isWritten_invalid (key summary : Value) :
    (skipped (.invalid key summary)).IsWritten .warning
      ("Invalid class summary entry " ++ key.render ++ ": " ++ summary.render ++
        ", skipped") :=
  ⟨rfl, fun _ => rfl⟩

theorem isWritten_duplicate (key : String) :
    (duplicate key).IsWritten .debug
      ("Duplicate class summary for " ++ key ++ ", keeping last") :=
  ⟨rfl, fun _ => rfl⟩

end Record

theorem IsStateName.isPlain {word : List Char} (name : IsStateName word) :
    ∀ letter ∈ word, Text.IsPlain letter := by
  intro letter member
  have range := name.toNat letter member
  refine ⟨by omega, by omega, ?_, ?_⟩
  · rintro rfl
    exact absurd range (by decide)
  · rintro rfl
    exact absurd range (by decide)

theorem EntryError.message_misnamed (key : String) {token : String}
    (name : IsStateName token.toList) :
    (badSummary key (.unknownState token)).message =
      "Bad class summary for " ++ key ++ ": Unknown taint state: '" ++ token ++ "'" := by
  change "Bad class summary for " ++ key ++ ": " ++
    ("Unknown taint state: " ++ Text.quoted token) = _
  rw [Text.quoted_of_isPlain name.isPlain]
  apply String.toList_inj.mp
  simp

theorem Record.isWritten_misnamed (key : String) {token : String}
    (name : IsStateName token.toList) :
    (skipped (.badSummary key (.unknownState token))).IsWritten .warning
      ("Bad class summary for " ++ key ++ ": Unknown taint state: '" ++ token ++
        "', skipped") := by
  refine ⟨rfl, fun path => ?_⟩
  rw [Record.message_skipped, EntryError.message_misnamed key name, String.append_assoc]
  rfl

section Counts

def warningCount (log : List Record) : Nat :=
  log.countP fun record => record.level = .warning

def duplicateCount (log : List Record) : Nat :=
  log.countP Record.isDuplicate

variable (log : List Record)

theorem warningCount_skipped (error : EntryError) :
    warningCount (.skipped error :: log) = warningCount log + 1 :=
  List.countP_cons_of_pos (by rfl)

theorem warningCount_duplicate (key : String) :
    warningCount (.duplicate key :: log) = warningCount log :=
  List.countP_cons_of_neg (by simp [Record.level])

theorem duplicateCount_skipped (error : EntryError) :
    duplicateCount (.skipped error :: log) = duplicateCount log :=
  List.countP_cons_of_neg (by simp [Record.isDuplicate])

theorem duplicateCount_duplicate (key : String) :
    duplicateCount (.duplicate key :: log) = duplicateCount log + 1 :=
  List.countP_cons_of_pos rfl

end Counts

namespace Entry

variable {before : List Entry} {entry : Entry} {key token : String}

/-- The entry is valid, and this is its key. -/
def IsAbout (entry : Entry) (key : String) : Prop :=
  ∃ config, entry.Stores key config

theorem IsAbout.form (about : entry.IsAbout key) :
    accepts entry.key entry.summary = true := by
  obtain ⟨_, stores⟩ := about
  exact stores.form

theorem IsAbout.unique {other : String} (about : entry.IsAbout key)
    (others : entry.IsAbout other) : key = other := by
  obtain ⟨_, stores⟩ := about
  obtain ⟨_, again⟩ := others
  exact Value.text.inj (stores.key.symm.trans again.key)

theorem not_isAbout_of_read_error {error : EntryError}
    (failed : entry.read = .error error) : ¬ entry.IsAbout key := by
  intro about
  obtain ⟨_, stores⟩ := about
  cases failed.symm.trans stores.read_eq

theorem Misnames.not_isAbout {other : String} (misnames : entry.Misnames key token)
    (about : entry.IsAbout other) : False :=
  not_isAbout_of_read_error misnames.read_eq about

theorem misnames_iff :
    entry.Misnames key token ↔
      entry.key = .text key ∧ accepts entry.key entry.summary = true ∧
        ∃ text immutable, entry.summary = .text text ∧
          SummaryParts text.toList token.toList immutable ∧
          IsStateName token.toList ∧ ¬ TaintState.enumeration.HasName token := by
  constructor
  · intro misnames
    obtain ⟨_, text, -, summaryText, -, form⟩ := exists_text_of_accepts misnames.form
    have failed := misnames.error
    rw [summaryText, Value.loadTaint_text_eq_error_iff] at failed
    rcases Config.load_of_isSummary form with
      ⟨config, loaded⟩ | ⟨other, unknown, -, ⟨immutable, parts⟩, -⟩
    · cases failed.symm.trans loaded
    · cases failed.symm.trans unknown
      exact ⟨misnames.key, misnames.form, text, immutable, summaryText, parts,
        misnames.name, misnames.unknown⟩
  · rintro ⟨keyText, form, text, immutable, summaryText, parts, name, unknown⟩
    refine ⟨keyText, form, ?_, name, unknown⟩
    obtain ⟨_, _, -, same, -, written⟩ := exists_text_of_accepts form
    cases summaryText.symm.trans same
    rw [summaryText, Value.loadTaint_text_eq_error_iff, Config.loadTaint,
      Config.load_eq_error_iff, trim_of_isSummary written]
    refine .inr ⟨token.toList, immutable, parts, name.1, ?_, ?_⟩
    · rintro ⟨-, known⟩
      rw [String.ofList_toList] at known
      exact unknown known
    · rw [String.ofList_toList]

/-- What is noted at an entry that stands behind others. -/
inductive Noted (before : List Entry) (entry : Entry) : Option Record → Prop
  | invalid (refused : accepts entry.key entry.summary = false) :
      Noted before entry (some (.skipped (.invalid entry.key entry.summary)))
  | misnamed {key token : String} (misnames : entry.Misnames key token) :
      Noted before entry
        (some (.skipped (.badSummary key (.unknownState token))))
  | repeated {key : String} (about : entry.IsAbout key)
      (earlier : ∃ other ∈ before, other.IsAbout key) :
      Noted before entry (some (.duplicate key))
  | first {key : String} (about : entry.IsAbout key)
      (unseen : ∀ other ∈ before, ¬ other.IsAbout key) : Noted before entry none

theorem noted_of_read_error {error : EntryError}
    (failed : entry.read = .error error) :
    entry.Noted before (some (.skipped error)) := by
  rcases entry.read_cases with
    ⟨refused, same⟩ | ⟨key, token, misnames, same⟩ | ⟨key, config, -, same⟩
  · cases failed.symm.trans same
    exact .invalid refused
  · cases failed.symm.trans same
    exact .misnamed misnames
  · cases failed.symm.trans same

namespace Noted

variable {note : Option Record}

theorem eq_invalid_iff (noted : entry.Noted before note) :
    note = some (.skipped (.invalid entry.key entry.summary)) ↔
      accepts entry.key entry.summary = false := by
  cases noted with
  | invalid refused => exact ⟨fun _ => refused, fun _ => rfl⟩
  | misnamed misnames => simp [misnames.form]
  | repeated about earlier => simp [about.form]
  | first about unseen => simp [about.form]

theorem eq_misnamed_iff (noted : entry.Noted before note) :
    note = some (.skipped (.badSummary key (.unknownState token))) ↔
      entry.Misnames key token := by
  constructor
  · rintro rfl
    cases noted with
    | misnamed misnames => exact misnames
  · intro misnames
    cases noted with
    | invalid refused => cases refused.symm.trans misnames.form
    | misnamed others =>
        cases others.read_eq.symm.trans misnames.read_eq
        rfl
    | repeated about earlier => exact (misnames.not_isAbout about).elim
    | first about unseen => exact (misnames.not_isAbout about).elim

theorem eq_duplicate_iff (noted : entry.Noted before note) :
    note = some (.duplicate key) ↔
      entry.IsAbout key ∧ ∃ other ∈ before, other.IsAbout key := by
  constructor
  · rintro rfl
    cases noted with
    | repeated about earlier => exact ⟨about, earlier⟩
  · rintro ⟨about, earlier⟩
    cases noted with
    | invalid refused => cases refused.symm.trans about.form
    | misnamed misnames => exact (misnames.not_isAbout about).elim
    | repeated others _ =>
        cases others.unique about
        rfl
    | first others unseen =>
        cases others.unique about
        obtain ⟨other, member, same⟩ := earlier
        exact absurd same (unseen other member)

theorem eq_none_iff (noted : entry.Noted before note) :
    note = none ↔
      ∃ key, entry.IsAbout key ∧ ∀ other ∈ before, ¬ other.IsAbout key := by
  constructor
  · rintro rfl
    cases noted with
    | first about unseen => exact ⟨_, about, unseen⟩
  · rintro ⟨key, about, unseen⟩
    cases noted with
    | invalid refused => cases refused.symm.trans about.form
    | misnamed misnames => exact (misnames.not_isAbout about).elim
    | repeated others earlier =>
        cases others.unique about
        obtain ⟨other, member, same⟩ := earlier
        exact absurd same (unseen other member)
    | first _ _ => rfl

theorem isWritten {record : Record} (noted : entry.Noted before (some record)) :
    (record = .skipped (.invalid entry.key entry.summary) ∧
      record.IsWritten .warning
        ("Invalid class summary entry " ++ entry.key.render ++ ": " ++
          entry.summary.render ++ ", skipped")) ∨
    (∃ key token, record = .skipped (.badSummary key (.unknownState token)) ∧
      record.IsWritten .warning
        ("Bad class summary for " ++ key ++ ": Unknown taint state: '" ++
          token ++ "', skipped")) ∨
    ∃ key, record = .duplicate key ∧
      record.IsWritten .debug
        ("Duplicate class summary for " ++ key ++ ", keeping last") := by
  cases noted with
  | invalid refused => exact .inl ⟨rfl, Record.isWritten_invalid _ _⟩
  | misnamed misnames =>
      exact .inr (.inl ⟨_, _, rfl, Record.isWritten_misnamed _ misnames.name⟩)
  | repeated about earlier => exact .inr (.inr ⟨_, rfl, Record.isWritten_duplicate _⟩)

end Noted

inductive NotedAll : List Entry → List Entry → List (Option Record) → Prop
  | nil (before : List Entry) : NotedAll before [] []
  | cons {before rest : List Entry} {entry : Entry} {note : Option Record}
      {notes : List (Option Record)} (noted : entry.Noted before note)
      (others : NotedAll (before ++ [entry]) rest notes) :
      NotedAll before (entry :: rest) (note :: notes)

namespace NotedAll

variable {entries : List Entry} {notes : List (Option Record)}

theorem length_eq (noted : NotedAll before entries notes) :
    notes.length = entries.length := by
  induction noted with
  | nil before => rfl
  | cons noted others induction => exact congrArg (· + 1) induction

theorem exists_note (noted : NotedAll before entries notes) {front back : List Entry}
    (split : entries = front ++ entry :: back) :
    ∃ note, notes[front.length]? = some note ∧ entry.Noted (before ++ front) note := by
  induction noted generalizing front with
  | nil before => simp at split
  | cons noted others induction =>
      cases front with
      | nil =>
          cases split
          rw [List.append_nil]
          exact ⟨_, rfl, noted⟩
      | cons first front =>
          cases split
          obtain ⟨note, here, shape⟩ := induction rfl
          rw [List.append_assoc] at shape
          exact ⟨note, here, shape⟩

theorem exists_entry (noted : NotedAll before entries notes) {note : Option Record}
    (member : note ∈ notes) :
    ∃ front entry back, entries = front ++ entry :: back ∧
      entry.Noted (before ++ front) note := by
  induction noted with
  | nil before => cases member
  | @cons before rest entry _ _ noted others induction =>
      rcases List.mem_cons.mp member with rfl | later
      · refine ⟨[], entry, rest, rfl, ?_⟩
        rwa [List.append_nil]
      · obtain ⟨front, other, back, rfl, shape⟩ := induction later
        rw [List.append_assoc] at shape
        exact ⟨entry :: front, other, back, rfl, shape⟩

end NotedAll

end Entry

namespace Catalog

variable {catalog final : Catalog} {before entries : List Entry} {key : String}

theorem contains_valid_iff :
    Table.contains key (Table.ofEntries (before.filterMap Entry.valid?)) = true ↔
      ∃ other ∈ before, other.IsAbout key := by
  rw [Table.contains, Option.isSome_iff_exists]
  constructor
  · rintro ⟨config, found⟩
    obtain ⟨other, member, stores⟩ := stores_of_get?_valid found
    exact ⟨other, member, config, stores⟩
  · rintro ⟨other, member, config, stores⟩
    rw [← Table.mem_keys_iff, Table.keys_ofEntries, List.mem_eraseDups]
    have valid := Entry.valid?_eq_some_iff.mpr stores
    exact List.mem_map_of_mem (List.mem_filterMap.mpr ⟨other, member, valid⟩)

theorem ofEntries_valid_append_of_valid {entry : Entry} {config : Config}
    (read : entry.read = .ok (key, config)) :
    Table.ofEntries ((before ++ [entry]).filterMap Entry.valid?) =
      (Table.ofEntries (before.filterMap Entry.valid?)).put key config := by
  rw [List.filterMap_append, Table.ofEntries, Table.update_append,
    List.filterMap_cons_some (Entry.valid?_of_read_ok read)]
  rfl

theorem filterMap_valid_append_of_error {entry : Entry} {error : EntryError}
    (failed : entry.read = .error error) :
    (before ++ [entry]).filterMap Entry.valid? = before.filterMap Entry.valid? := by
  rw [List.filterMap_append,
    List.filterMap_cons_none (Entry.valid?_of_read_error failed)]
  exact List.append_nil _

theorem exists_notedAll
    (loaded : (storeAll .lenient
      (Table.ofEntries (before.filterMap Entry.valid?)) entries).outcome = .ok final) :
    ∃ notes, Entry.NotedAll before entries notes ∧
      (storeAll .lenient (Table.ofEntries (before.filterMap Entry.valid?))
        entries).log = notes.reduceOption ++ [.loaded final.length] := by
  -- At each entry the catalog holds what the valid ones before it say.
  induction entries generalizing before with
  | nil =>
      cases loaded
      exact ⟨[], .nil before, rfl⟩
  | cons entry rest induction =>
      cases entry.reading with
      | valid read =>
          rename_i key config
          have about : entry.IsAbout key := ⟨config, Entry.read_eq_ok_iff.mp read⟩
          rw [outcome_storeAll_of_valid read,
            ← ofEntries_valid_append_of_valid read] at loaded
          obtain ⟨notes, noted, log⟩ := induction loaded
          rw [storeAll_of_valid read, ← ofEntries_valid_append_of_valid read]
          split
          · rename_i seen
            refine ⟨_, .cons (.repeated about (contains_valid_iff.mp seen)) noted, ?_⟩
            rw [Loading.log_note, log, List.reduceOption_cons_of_some]
            rfl
          · rename_i unseen
            refine ⟨_, .cons (.first about ?_) noted, ?_⟩
            · intro other member same
              exact unseen (contains_valid_iff.mpr ⟨other, member, same⟩)
            · rw [log, List.reduceOption_cons_of_none]
      | skipped failed writable =>
          rw [storeAll_lenient_of_error failed writable, Loading.outcome_note,
            ← filterMap_valid_append_of_error failed] at loaded
          obtain ⟨notes, noted, log⟩ := induction loaded
          refine ⟨_, .cons (Entry.noted_of_read_error failed) noted, ?_⟩
          rw [storeAll_lenient_of_error failed writable, Loading.log_note,
            ← filterMap_valid_append_of_error failed, log,
            List.reduceOption_cons_of_some]
          rfl
      | unreportable failed unwritable =>
          rw [storeAll_of_unwritable failed unwritable] at loaded
          cases loaded

theorem length_storeAll
    (loaded : (storeAll .lenient catalog entries).outcome = .ok final) :
    catalog.length + entries.length =
      warningCount (storeAll .lenient catalog entries).log +
        duplicateCount (storeAll .lenient catalog entries).log + final.length := by
  -- An entry makes the catalog longer, or leaves a warning or the note of a duplicate.
  induction entries generalizing catalog with
  | nil =>
      cases loaded
      simp [storeAll, warningCount, duplicateCount, Record.level, Record.isDuplicate]
  | cons entry rest induction =>
      cases entry.reading with
      | valid read =>
          rw [outcome_storeAll_of_valid read] at loaded
          have others := induction loaded
          rw [Table.length_put] at others
          rw [storeAll_of_valid read, List.length_cons]
          split
          · rename_i seen
            rw [if_pos seen] at others
            rw [Loading.log_note, warningCount_duplicate, duplicateCount_duplicate]
            omega
          · rename_i unseen
            rw [if_neg unseen] at others
            omega
      | skipped failed writable =>
          rw [storeAll_lenient_of_error failed writable, Loading.outcome_note] at loaded
          have others := induction loaded
          rw [storeAll_lenient_of_error failed writable, Loading.log_note,
            warningCount_skipped, duplicateCount_skipped, List.length_cons]
          omega
      | unreportable failed unwritable =>
          rw [storeAll_of_unwritable failed unwritable] at loaded
          cases loaded

theorem exists_notedAll_entries
    (loaded : (storeAll .lenient [] entries).outcome = .ok final) :
    ∃ notes, Entry.NotedAll [] entries notes ∧
      (storeAll .lenient [] entries).log =
        notes.reduceOption ++ [.loaded final.length] :=
  exists_notedAll loaded

theorem split_of_duplicate
    (loaded : (storeAll .lenient [] entries).outcome = .ok final)
    (noted : .duplicate key ∈ (storeAll .lenient [] entries).log) :
    ∃ front entry back, entries = front ++ entry :: back ∧ entry.IsAbout key ∧
      ∃ other ∈ front, other.IsAbout key := by
  obtain ⟨notes, all, log⟩ := exists_notedAll_entries loaded
  -- The closing record is no duplicate, so the note belongs to an entry.
  rw [log, List.mem_append] at noted
  rcases noted with early | final
  · obtain ⟨front, entry, back, split, shape⟩ :=
      all.exists_entry (List.reduceOption_mem_iff.mp early)
    exact ⟨front, entry, back, split, shape.eq_duplicate_iff.mp rfl⟩
  · cases List.mem_singleton.mp final

theorem duplicateCount_mapping {pairs : List (Value × Value)}
    (distinct : pairs.Pairwise fun pair other => (pair.1 == other.1) = false)
    (loaded : (storeAll .lenient [] (Rules.mapping pairs).entries).outcome =
      .ok final) :
    duplicateCount (storeAll .lenient [] (Rules.mapping pairs).entries).log = 0 := by
  apply List.countP_eq_zero.mpr
  intro record noted duplicate
  cases record with
  | skipped error => cases duplicate
  | loaded count => cases duplicate
  | duplicate key =>
      obtain ⟨front, entry, back, split, ⟨_, stores⟩, other, member, _, earlier⟩ :=
        split_of_duplicate loaded noted
      have keys : (Rules.mapping pairs).entries.Pairwise
          fun first second => (first.key == second.key) = false :=
        List.pairwise_map.mpr distinct
      rw [split, List.pairwise_append] at keys
      have differ := keys.2.2 other member entry List.mem_cons_self
      rw [earlier.key, stores.key, Value.text_beq_self] at differ
      cases differ

/-- The log of a lenient run accounts for every entry once. It has at most one
record of each, in their order, and a closing one. -/
theorem ofDocument_lenient_accounts (rules : Rules) :
    let loading := ofDocument .lenient (.mapping [(.text rulesName, rules.toValue)])
    ∀ catalog, loading.outcome = .ok catalog →
      (∃ notes : List (Option Record),
        loading.log = notes.reduceOption ++ [.loaded catalog.length] ∧
        notes.length = rules.entries.length ∧
        ∀ before entry after, rules.entries = before ++ entry :: after →
          ∃ note, notes[before.length]? = some note ∧
            (note = some (.skipped (.invalid entry.key entry.summary)) ↔
              accepts entry.key entry.summary = false) ∧
            (∀ key token,
              note = some (.skipped (.badSummary key (.unknownState token))) ↔
                entry.key = .text key ∧ accepts entry.key entry.summary = true ∧
                ∃ text immutable, entry.summary = .text text ∧
                  SummaryParts text.toList token.toList immutable ∧
                  IsStateName token.toList ∧
                  ¬ TaintState.enumeration.HasName token) ∧
            (∀ key, note = some (.duplicate key) ↔
              entry.IsAbout key ∧ ∃ other ∈ before, other.IsAbout key) ∧
            (note = none ↔
              ∃ key, entry.IsAbout key ∧ ∀ other ∈ before, ¬ other.IsAbout key) ∧
            ∀ record, note = some record →
              (record = .skipped (.invalid entry.key entry.summary) ∧
                record.IsWritten .warning
                  ("Invalid class summary entry " ++ entry.key.render ++ ": " ++
                    entry.summary.render ++ ", skipped")) ∨
              (∃ key token,
                record = .skipped (.badSummary key (.unknownState token)) ∧
                record.IsWritten .warning
                  ("Bad class summary for " ++ key ++ ": Unknown taint state: '" ++
                    token ++ "', skipped")) ∨
              ∃ key, record = .duplicate key ∧
                record.IsWritten .debug
                  ("Duplicate class summary for " ++ key ++ ", keeping last")) ∧
      ((Record.loaded catalog.length).level = .debug ∧
        ∀ path, (Record.loaded catalog.length).message path =
          "Loaded " ++ Number.naturalText catalog.length ++ " class summaries from " ++
            path) ∧
      rules.entries.length =
        warningCount loading.log + duplicateCount loading.log + catalog.length ∧
      ∀ pairs, rules = .mapping pairs →
        (pairs.Pairwise fun pair other => (pair.1 == other.1) = false) →
        duplicateCount loading.log = 0 := by
  intro loading catalog loaded
  have run : loading = storeAll .lenient [] rules.entries :=
    ofDocument_of_rules (Rules.ofDocument_singleton rules rulesName) .lenient
  rw [run] at loaded ⊢
  refine ⟨?notes, ⟨rfl, fun _ => rfl⟩, ?count, ?mapping⟩
  case notes =>
    obtain ⟨notes, all, log⟩ := exists_notedAll_entries loaded
    refine ⟨notes, log, all.length_eq, ?_⟩
    intro before entry after split
    obtain ⟨note, here, noted⟩ := all.exists_note split
    refine ⟨note, here, noted.eq_invalid_iff, ?_, fun _ => noted.eq_duplicate_iff,
      noted.eq_none_iff, fun _ => ?_⟩
    · intro key token
      rw [← Entry.misnames_iff]
      exact noted.eq_misnamed_iff
    · rintro rfl
      exact noted.isWritten
  case count =>
    have total := length_storeAll loaded
    rw [List.length_nil, Nat.zero_add] at total
    exact total
  case mapping =>
    rintro pairs rfl distinct
    exact duplicateCount_mapping distinct loaded

/-- Two entries that are skipped, between two valid ones under one key. -/
theorem ofDocument_lenient_accounts_lines :
    let rules : Rules :=
      .lines [.text "I:SAFE", .text "V", .text "J:MAYBE", .text "I:NULL"]
    let loading := ofDocument .lenient (.mapping [(.text rulesName, rules.toValue)])
    ∃ catalog, loading.outcome = .ok catalog ∧ catalog.length = 1 ∧
      loading.log.map (fun record => (record.level, record.message "classes.yml")) =
        [(.warning, "Invalid class summary entry 'V': None, skipped"),
          (.warning,
            "Bad class summary for J: Unknown taint state: 'MAYBE', skipped"),
          (.debug, "Duplicate class summary for I, keeping last"),
          (.debug, "Loaded 1 class summaries from classes.yml")] ∧
      rules.entries.length =
        warningCount loading.log + duplicateCount loading.log + catalog.length := by
  intro rules loading
  obtain ⟨catalog, loaded, single⟩ : ∃ catalog, loading.outcome = .ok catalog ∧
      decide (catalog.length = 1) = true := exists_ok_of_check (by decide +kernel)
  refine ⟨catalog, loaded, of_decide_eq_true single, by decide +kernel, ?_⟩
  exact (ofDocument_lenient_accounts rules catalog loaded).2.2.1

end Catalog

end ClassTaint
