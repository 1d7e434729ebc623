import ClassTaint.Proofs.Catalog.Accounting
import ClassTaint.Proofs.Value.Printing

namespace ClassTaint

/-! What loading says. Whatever comes from a document is quoted in a message, and if
it is not quoted it has been checked before: a key is a descriptor, and a token is the
name of a state. -/

open Text

theorem isPrintableText_of_isDescriptor {key : String}
    (written : isDescriptor key.toList = true) : IsPrintableText key := by
  obtain ⟨levels, element, parts⟩ := isDescriptor_iff_parts.mp written
  intro letter member
  have range := (parts.letters letter member).toNat
  exact isPrintable_of_range (by omega) (by omega)

theorem IsStateName.isPrintableText {token : String} (name : IsStateName token.toList) :
    IsPrintableText token :=
  fun letter member => (name.isPlain letter member).isPrintable

theorem Entry.Misnames.isDescriptor_key {entry : Entry} {key token : String}
    (misnames : entry.Misnames key token) : isDescriptor key.toList = true := by
  obtain ⟨_, text, same, -, written, -⟩ := exists_text_of_accepts misnames.form
  cases misnames.key.symm.trans same
  exact written

namespace EntryError

variable {entry : Entry} {error : EntryError}

/-- The two texts about an entry that is not stored. -/
theorem message_cases (failed : entry.read = .error error) :
    (∃ key summary : Value, error.message =
      "Invalid class summary entry " ++ key.render ++ ": " ++ summary.render) ∨
    ∃ key token : String, isDescriptor key.toList = true ∧ IsStateName token.toList ∧
      error.message =
        "Bad class summary for " ++ key ++ ": Unknown taint state: '" ++ token ++ "'" := by
  rcases entry.read_cases with
    ⟨-, same⟩ | ⟨key, token, misnames, same⟩ | ⟨_, _, -, same⟩
  · cases failed.symm.trans same
    exact .inl ⟨entry.key, entry.summary, rfl⟩
  · cases failed.symm.trans same
    exact .inr ⟨key, token, misnames.isDescriptor_key, misnames.name,
      message_misnamed key misnames.name⟩
  · cases failed.symm.trans same

theorem isPrintableText_message (failed : entry.read = .error error) :
    IsPrintableText error.message := by
  rcases message_cases failed with
    ⟨key, summary, text⟩ | ⟨key, token, written, name, text⟩
  · simp only [text, isPrintableText_append]
    exact ⟨⟨⟨by decide, key.isPrintableText_render⟩, by decide⟩,
      summary.isPrintableText_render⟩
  · simp only [text, isPrintableText_append]
    exact ⟨⟨⟨⟨by decide, isPrintableText_of_isDescriptor written⟩, by decide⟩,
      name.isPrintableText⟩, by decide⟩

theorem message_of_bad (failed : entry.read = .error error) (rest : String)
    (starts : "Bad class summary for ".toList <+: (error.message ++ rest).toList) :
    ∃ key token : String, isDescriptor key.toList = true ∧ IsStateName token.toList ∧
      error.message =
        "Bad class summary for " ++ key ++ ": Unknown taint state: '" ++ token ++ "'" := by
  rcases message_cases failed with ⟨key, summary, text⟩ | bad
  · rw [text] at starts
    simp at starts
  · exact bad

end EntryError

namespace Record

variable {entries : List Entry} {record : Record} {path : String}

theorem message_duplicate (path key : String) :
    message path (.duplicate key) =
      "Duplicate class summary for " ++ key ++ ", keeping last" := rfl

theorem message_loaded (path : String) (count : Nat) :
    message path (.loaded count) =
      "Loaded " ++ Number.naturalText count ++ " class summaries from " ++ path := rfl

namespace ComesFrom

theorem isPrintableText_message (comes : record.ComesFrom entries)
    (printable : IsPrintableText path) : IsPrintableText (record.message path) := by
  cases comes with
  | skipped member failed =>
      rw [message_skipped, isPrintableText_append]
      exact ⟨EntryError.isPrintableText_message failed, by decide⟩
  | duplicate member read =>
      have written := (Entry.read_eq_ok_iff.mp read).isDescriptor_key
      simp only [message_duplicate, isPrintableText_append]
      exact ⟨⟨by decide, isPrintableText_of_isDescriptor written⟩, by decide⟩
  | loaded count =>
      simp only [message_loaded, isPrintableText_append]
      exact ⟨⟨⟨by decide, Number.isPrintableText_naturalText count⟩, by decide⟩, printable⟩

theorem message_of_bad (comes : record.ComesFrom entries)
    (starts : "Bad class summary for ".toList <+: (record.message path).toList) :
    ∃ key token : String, isDescriptor key.toList = true ∧ IsStateName token.toList ∧
      record.message path =
        "Bad class summary for " ++ key ++ ": Unknown taint state: '" ++ token ++
          "', skipped" := by
  cases comes with
  | skipped member failed =>
      rw [message_skipped] at starts ⊢
      obtain ⟨key, token, written, name, text⟩ := EntryError.message_of_bad failed _ starts
      refine ⟨key, token, written, name, ?_⟩
      rw [text, String.append_assoc]
      rfl
  | duplicate member read =>
      rw [message_duplicate] at starts
      simp at starts
  | loaded count =>
      rw [message_loaded] at starts
      simp at starts

theorem message_of_duplicate (comes : record.ComesFrom entries)
    (starts : "Duplicate class summary for ".toList <+: (record.message path).toList) :
    ∃ key : String, isDescriptor key.toList = true ∧
      record.message path = "Duplicate class summary for " ++ key ++ ", keeping last" := by
  cases comes with
  | skipped member failed =>
      rw [message_skipped] at starts
      rcases EntryError.message_cases failed with ⟨key, summary, text⟩ | ⟨_, _, -, -, text⟩
      all_goals
        rw [text] at starts
        simp at starts
  | @duplicate entry key config member read =>
      exact ⟨key, (Entry.read_eq_ok_iff.mp read).isDescriptor_key,
        message_duplicate path key⟩
  | loaded count =>
      rw [message_loaded] at starts
      simp at starts

end ComesFrom

end Record

theorem Rules.ofDocument_error_cases {document : Value} {name : String} {error : RulesError}
    (failed : ofDocument document name = .error error) :
    error = .missing name ∨ error = .invalid name := by
  unfold ofDocument at failed
  split at failed
  · split at failed
    · cases failed
      exact .inl rfl
    · split at failed
      · cases failed
      · cases failed
        exact .inr rfl
  · cases failed
    exact .inl rfl

namespace Catalog

variable {mode : Mode} {document : Value}

theorem comesFrom_of_noted_ofDocument {record : Record}
    (noted : record ∈ (ofDocument mode document).log) :
    ∃ entries, record.ComesFrom entries := by
  cases found : Rules.ofDocument document rulesName with
  | ok rules =>
      rw [ofDocument_of_rules found] at noted
      exact ⟨rules.entries, comesFrom_of_noted noted⟩
  | error reason =>
      rw [ofDocument_of_rulesError found] at noted
      cases noted

theorem ofDocument_error_cases {reason : CatalogError}
    (failed : (ofDocument mode document).outcome = .error reason) :
    (∃ fault, reason = .ofWriting fault) ∨ reason = .rules (.missing rulesName) ∨
      reason = .rules (.invalid rulesName) ∨
        ∃ (entry : Entry) (error : EntryError),
          entry.read = .error error ∧ reason = .entry error := by
  cases found : Rules.ofDocument document rulesName with
  | ok rules =>
      rw [ofDocument_of_rules found] at failed
      rcases storeAll_error_cases failed with fault | ⟨entry, -, error, read, rfl⟩
      · exact .inl fault
      · exact .inr (.inr (.inr ⟨entry, error, read, rfl⟩))
  | error error =>
      rw [ofDocument_of_rulesError found] at failed
      cases failed
      rcases Rules.ofDocument_error_cases found with rfl | rfl
      · exact .inr (.inl rfl)
      · exact .inr (.inr (.inl rfl))

/-- Nothing in a document can break a line of the log or pass for another one. All
messages are printable, if only the path is, and a key that is not quoted in one is a
descriptor. -/
theorem ofDocument_messages (mode : Mode) (document : Value) :
    let loading := ofDocument mode document
    (∀ record ∈ loading.log, ∀ path, IsPrintableText path →
      IsPrintableText (record.message path)) ∧
    (∀ error, loading.outcome = .error error → IsPrintableText error.message) ∧
    (∀ character, isPrintable character = true →
      ¬ IsHidden character ∧ (isBlank character = true → character = ' ')) ∧
    (∀ record ∈ loading.log, ∀ path,
      "Bad class summary for ".toList <+: (record.message path).toList →
        ∃ key token : String, isDescriptor key.toList = true ∧
          IsStateName token.toList ∧ record.message path =
            "Bad class summary for " ++ key ++ ": Unknown taint state: '" ++ token ++
              "', skipped") ∧
    (∀ record ∈ loading.log, ∀ path,
      "Duplicate class summary for ".toList <+: (record.message path).toList →
        ∃ key : String, isDescriptor key.toList = true ∧ record.message path =
          "Duplicate class summary for " ++ key ++ ", keeping last") ∧
    (∀ error, loading.outcome = .error error →
      "Bad class summary for ".toList <+: error.message.toList →
        ∃ key token : String, isDescriptor key.toList = true ∧
          IsStateName token.toList ∧ error.message =
            "Bad class summary for " ++ key ++ ": Unknown taint state: '" ++ token ++
              "'") ∧
    ∀ text, isDescriptor text = true → ∀ letter ∈ text, IsDescriptorLetter letter := by
  intro loading
  refine ⟨?printable, ?error, ?hidden, ?bad, ?duplicate, ?raised, ?letters⟩
  case printable =>
    intro record noted path printable
    obtain ⟨entries, comes⟩ := comesFrom_of_noted_ofDocument noted
    exact comes.isPrintableText_message printable
  case error =>
    intro error failed
    rcases ofDocument_error_cases failed with
      ⟨fault, rfl⟩ | rfl | rfl | ⟨entry, error, read, rfl⟩
    · cases fault <;> decide
    · decide
    · decide
    · exact EntryError.isPrintableText_message read
  case hidden =>
    intro character printable
    have seen := not_isHidden_of_isPrintable printable
    refine ⟨seen, ?_⟩
    intro blank
    apply Classical.byContradiction
    intro other
    exact seen (isHidden_of_isBlank blank other)
  case bad =>
    intro record noted path starts
    obtain ⟨entries, comes⟩ := comesFrom_of_noted_ofDocument noted
    exact comes.message_of_bad starts
  case duplicate =>
    intro record noted path starts
    obtain ⟨entries, comes⟩ := comesFrom_of_noted_ofDocument noted
    exact comes.message_of_duplicate starts
  case raised =>
    intro error failed starts
    rcases ofDocument_error_cases failed with
      ⟨fault, rfl⟩ | rfl | rfl | ⟨entry, error, read, rfl⟩
    · cases fault <;> exact absurd starts (by decide)
    · exact absurd starts (by decide)
    · exact absurd starts (by decide)
    · apply EntryError.message_of_bad read ""
      rw [String.append_empty]
      exact starts
  case letters =>
    intro text written
    obtain ⟨levels, element, parts⟩ := isDescriptor_iff_parts.mp written
    exact parts.letters

/-- A line break inside an entry stays inside the quotes. -/
example :
    (ofDocument .lenient (.mapping [(.text rulesName,
      .list [.text "I:MAYBE", .list [.text "V\nLoaded"]])])).log.map
        (Record.message "<path>") =
      ["Bad class summary for I: Unknown taint state: 'MAYBE', skipped",
        "Invalid class summary entry ['V\\nLoaded']: None, skipped",
        "Loaded 0 class summaries from <path>"] := by
  decide +kernel

end Catalog

end ClassTaint
