import ClassTaint.Catalog.Entry
import ClassTaint.Proofs.Config.Grammar

namespace ClassTaint

/-! What becomes of one entry. It is stored when it has the form of entries and
its summary is read. Without the form it is invalid, and with it only the name of
an unknown state is in the way. -/

namespace Value

/-- Any value read as a summary against the taint states. -/
def loadTaint (summary : Value) : Except (NotText ⊕ SummaryError) Config :=
  Config.loadValue summary TaintState.enumeration TaintState.null

theorem loadTaint_text_eq_ok_iff {text : String} {config : Config} :
    (Value.text text).loadTaint = .ok config ↔
      Config.loadTaint text = .ok config := by
  simp only [loadTaint, Config.loadValue, Config.loadTaint]
  cases Config.load text TaintState.enumeration TaintState.null with
  | ok other =>
      constructor
      · intro same
        cases same
        rfl
      · intro same
        cases same
        rfl
  | error error =>
      constructor <;> intro same <;> cases same

theorem loadTaint_text_eq_error_iff {text : String} {error : SummaryError} :
    (Value.text text).loadTaint = .error (.inr error) ↔
      Config.loadTaint text = .error error := by
  simp only [loadTaint, Config.loadValue, Config.loadTaint]
  cases Config.load text TaintState.enumeration TaintState.null with
  | ok config =>
      constructor <;> intro same <;> cases same
  | error other =>
      constructor
      · intro same
        cases same
        rfl
      · intro same
        cases same
        rfl

end Value

theorem exists_text_of_accepts {descriptor summary : Value}
    (fits : accepts descriptor summary = true) :
    ∃ key text, descriptor = .text key ∧ summary = .text text ∧
      isDescriptor key.toList = true ∧ isSummary text.toList = true := by
  rw [accepts, Bool.and_eq_true] at fits
  obtain ⟨first, second⟩ := fits
  cases descriptor with
  | text key =>
      cases summary with
      | text text => exact ⟨key, text, rfl, rfl, first, second⟩
      | _ => cases second
  | _ => cases first

namespace Entry

/-- The entry has the form of entries, and its summary is read. -/
structure Stores (entry : Entry) (key : String) (config : Config) : Prop where
  key : entry.key = .text key
  form : accepts entry.key entry.summary = true
  config : entry.summary.loadTaint = .ok config

/-- The descriptor and the configuration that an entry stands for, if it has the
form of entries and its summary is read. -/
def valid? (entry : Entry) : Option (String × Config) :=
  if accepts entry.key entry.summary then
    match entry.key, entry.summary.loadTaint with
    | .text key, .ok config => some (key, config)
    | _, _ => none
  else
    none

/-- The entry has the form of entries, but its summary names no state. -/
structure Misnames (entry : Entry) (key token : String) : Prop where
  key : entry.key = .text key
  form : accepts entry.key entry.summary = true
  error : entry.summary.loadTaint = .error (.inr (.unknownState token))
  name : IsStateName token.toList
  unknown : ¬ TaintState.enumeration.HasName token

/-- What is not of the form of entries can at least be written out. -/
def IsReportable (entry : Entry) : Prop :=
  accepts entry.key entry.summary = false →
    entry.key.isWritable = true ∧ entry.summary.isWritable = true

/-- The first fault in writing the message about an entry without the form of
entries. -/
def writingFault? (entry : Entry) : Option WritingFault :=
  if accepts entry.key entry.summary then none
  else entry.key.writingFault?.or entry.summary.writingFault?

variable {entry : Entry} {key token : String} {config : Config}

theorem stores_or_misnames (fits : accepts entry.key entry.summary = true) :
    (∃ key config, entry.Stores key config) ∨
      ∃ key token, entry.Misnames key token := by
  obtain ⟨key, text, keyText, summaryText, -, form⟩ := exists_text_of_accepts fits
  rcases Config.load_of_isSummary form with
    ⟨config, loaded⟩ | ⟨token, failed, name, -, unknown⟩
  · refine .inl ⟨key, config, keyText, fits, ?_⟩
    rw [summaryText]
    exact Value.loadTaint_text_eq_ok_iff.mpr loaded
  · refine .inr ⟨key, token, keyText, fits, ?_, name, unknown⟩
    rw [summaryText]
    exact Value.loadTaint_text_eq_error_iff.mpr failed

theorem read_of_not_accepts (refused : accepts entry.key entry.summary = false) :
    entry.read = .error (.invalid entry.key entry.summary) := by
  unfold read
  split
  · rename_i key summary keyText summaryText
    rw [keyText, summaryText] at refused ⊢
    simp [refused]
  · rfl

theorem read_of_accepts {summary : String}
    (fits : accepts (.text key) (.text summary) = true) :
    read ⟨.text key, .text summary⟩ =
      match Config.loadTaint summary with
      | .ok config => .ok (key, config)
      | .error error => .error (.badSummary key error) := by
  cases outcome : Config.loadTaint summary with
  | ok config => simp only [read, fits, if_true, outcome]
  | error error => simp only [read, fits, if_true, outcome]

theorem Stores.read_eq (stores : entry.Stores key config) :
    entry.read = .ok (key, config) := by
  obtain ⟨name, summary⟩ := entry
  obtain ⟨same, fits, loaded⟩ := stores
  cases same
  obtain ⟨_, text, -, rfl, -, -⟩ := exists_text_of_accepts fits
  rw [read_of_accepts fits, Value.loadTaint_text_eq_ok_iff.mp loaded]

theorem Misnames.read_eq (misnames : entry.Misnames key token) :
    entry.read = .error (.badSummary key (.unknownState token)) := by
  obtain ⟨name, summary⟩ := entry
  obtain ⟨same, fits, failed, -, -⟩ := misnames
  cases same
  obtain ⟨_, text, -, rfl, -, -⟩ := exists_text_of_accepts fits
  rw [read_of_accepts fits, Value.loadTaint_text_eq_error_iff.mp failed]

theorem read_cases (entry : Entry) :
    (accepts entry.key entry.summary = false ∧
        entry.read = .error (.invalid entry.key entry.summary)) ∨
      (∃ key token, entry.Misnames key token ∧
        entry.read = .error (.badSummary key (.unknownState token))) ∨
      ∃ key config, entry.Stores key config ∧ entry.read = .ok (key, config) := by
  cases fits : accepts entry.key entry.summary with
  | false => exact .inl ⟨rfl, read_of_not_accepts fits⟩
  | true =>
      rcases stores_or_misnames fits with ⟨key, config, stores⟩ | ⟨key, token, misnames⟩
      · exact .inr (.inr ⟨key, config, stores, stores.read_eq⟩)
      · exact .inr (.inl ⟨key, token, misnames, misnames.read_eq⟩)

theorem read_eq_ok_iff :
    entry.read = .ok (key, config) ↔ entry.Stores key config := by
  constructor
  · intro read
    rcases entry.read_cases with ⟨-, same⟩ | ⟨_, _, -, same⟩ | ⟨_, _, stores, same⟩
    · cases same.symm.trans read
    · cases same.symm.trans read
    · cases same.symm.trans read
      exact stores
  · exact Stores.read_eq

theorem valid?_eq_some_iff :
    entry.valid? = some (key, config) ↔ entry.Stores key config := by
  constructor
  · intro valid
    unfold valid? at valid
    split at valid
    · rename_i form
      split at valid
      · rename_i keyText loaded
        cases valid
        exact ⟨keyText, form, loaded⟩
      · cases valid
    · cases valid
  · intro stores
    rw [valid?, if_pos stores.form, stores.key, stores.config]

theorem valid?_of_read_ok (read : entry.read = .ok (key, config)) :
    entry.valid? = some (key, config) :=
  valid?_eq_some_iff.mpr (read_eq_ok_iff.mp read)

theorem valid?_of_read_error {error : EntryError}
    (failed : entry.read = .error error) : entry.valid? = none := by
  cases valid : entry.valid? with
  | none => rfl
  | some pair =>
      cases (valid?_eq_some_iff.mp valid).read_eq.symm.trans failed

theorem writingFault?_of_accepts (fits : accepts entry.key entry.summary = true) :
    entry.writingFault? = none :=
  if_pos fits

theorem writingFault?_of_not_accepts
    (refused : accepts entry.key entry.summary = false) :
    entry.writingFault? = entry.key.writingFault?.or entry.summary.writingFault? := by
  rw [writingFault?, refused]
  rfl

theorem isReportable_iff : entry.IsReportable ↔ entry.writingFault? = none := by
  cases fits : accepts entry.key entry.summary with
  | false => simp [IsReportable, fits, writingFault?_of_not_accepts fits, Value.isWritable]
  | true => simp [IsReportable, fits, writingFault?_of_accepts fits]

theorem writingFault?_of_read_ok (read : entry.read = .ok (key, config)) :
    entry.writingFault? = none :=
  writingFault?_of_accepts (read_eq_ok_iff.mp read).form

theorem writingFault?_of_read_error {error : EntryError}
    (failed : entry.read = .error error) : entry.writingFault? = error.writingFault? := by
  rcases entry.read_cases with
    ⟨refused, same⟩ | ⟨_, _, misnames, same⟩ | ⟨_, _, -, same⟩
  · cases failed.symm.trans same
    exact writingFault?_of_not_accepts refused
  · cases failed.symm.trans same
    exact writingFault?_of_accepts misnames.form
  · cases failed.symm.trans same

theorem isReportable_of_read_ok (read : entry.read = .ok (key, config)) :
    entry.IsReportable :=
  isReportable_iff.mpr (writingFault?_of_read_ok read)

/-- How storing goes on from an entry. -/
inductive Reading (entry : Entry) : Prop
  | valid {key : String} {config : Config}
      (read : entry.read = .ok (key, config)) : Reading entry
  | skipped {error : EntryError} (failed : entry.read = .error error)
      (writable : error.writingFault? = none) : Reading entry
  | unreportable {error : EntryError} {fault : WritingFault}
      (failed : entry.read = .error error)
      (unwritable : error.writingFault? = some fault) : Reading entry

theorem reading (entry : Entry) : entry.Reading := by
  cases read : entry.read with
  | ok pair =>
      obtain ⟨key, config⟩ := pair
      exact .valid read
  | error error =>
      cases writable : error.writingFault? with
      | none => exact .skipped read writable
      | some fault => exact .unreportable read writable

theorem read_ofLine_of_not_mem {content : String} (plain : ':' ∉ content.toList) :
    (ofLine (.text content)).read = .error (.invalid (.text content) .null) := by
  rw [ofLine, splitAtLast_eq_none_iff.mpr plain]
  rfl

theorem writingFault?_ofLine_integer (number : Int) :
    (ofLine (.integer number)).writingFault? =
      if Number.isWritable number then none else some .longNumber := by
  have inside : (ofLine (.integer number)).writingFault? =
      (Value.integer number).writingFault?.or Value.null.writingFault? :=
    writingFault?_of_not_accepts rfl
  rw [inside, Value.writingFault?_integer, Value.writingFault?_null, Option.or_none]

/-- A number that is just too long to be written is no entry, and cannot be
reported either. -/
theorem writingFault?_longNumber :
    (ofLine (.integer (.ofNat Number.leastUnwritable))).writingFault? =
      some .longNumber := by
  have long : Number.isWritable (.ofNat Number.leastUnwritable) = false := by
    rw [Number.isWritable_ofNat]
    exact decide_eq_false (Nat.lt_irrefl _)
  rw [writingFault?_ofLine_integer, long]
  rfl

end Entry

end ClassTaint
