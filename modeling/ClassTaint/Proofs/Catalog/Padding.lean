import ClassTaint.Proofs.Catalog.Item

namespace ClassTaint

/-! Blanks around names, summaries and the parts of a line. A reader takes them off
before it looks at the rest, so that a text with blanks around it is read as the text
without them, errors included. What is checked is checked as it is written, and blanks
have no place in it. -/

section Readers

variable (padded : Text.Padded)

theorem Config.load_padded (states : Enumeration) (defaultState : State) :
    load (String.ofList padded.text) states defaultState =
      load (String.ofList padded.content) states defaultState := by
  simp only [load, String.toList_ofList, padded.trim_text]

theorem spelledDescriptor_padded :
    spelledDescriptor padded.text = spelledDescriptor padded.content := by
  simp only [spelledDescriptor, padded.trim_text]

theorem Catalog.find?_padded (catalog : Catalog) :
    catalog.find? (String.ofList padded.text) =
      catalog.find? (String.ofList padded.content) := by
  simp only [find?, String.toList_ofList, spelledDescriptor_padded]

/-- The last colon of a line is in the same place, since no blank is a colon. -/
theorem Entry.ofLine_padded (key : Text.Padded) {summary : Text.Padded}
    (plain : ':' ∉ summary.content) :
    ofLine (.text (String.ofList (key.text ++ ':' :: summary.text))) =
      ofLine (.text (String.ofList (key.content ++ ':' :: summary.content))) := by
  have absent : ':' ∉ summary.text := by
    rwa [Text.Padded.mem_text_iff EntryLine.not_isBlank_colon]
  simp only [ofLine, String.toList_ofList, splitAtLast_append plain,
    splitAtLast_append absent, Text.Padded.trim_text]

end Readers

/-- A text with a blank at one of its ends. -/
def Value.IsPadded (value : Value) : Prop :=
  ∃ padded : Text.Padded, padded.IsProper ∧ value = .text (String.ofList padded.text)

theorem Value.IsPadded.trim_ne {content : String} (padded : (text content).IsPadded) :
    Text.trim content.toList ≠ content.toList := by
  obtain ⟨blanks, proper, same⟩ := padded
  cases same
  rw [String.toList_ofList]
  exact Text.Padded.trim_text_ne proper

theorem exists_trimmed_of_accepts {key summary : Value}
    (fits : accepts key summary = true) :
    ∃ name text, key = .text name ∧ summary = .text text ∧
      Text.trim name.toList = name.toList ∧ Text.trim text.toList = text.toList := by
  obtain ⟨name, text, keyText, summaryText, descriptor, form⟩ := exists_text_of_accepts fits
  exact ⟨name, text, keyText, summaryText, trim_of_isDescriptor descriptor,
    trim_of_isSummary form⟩

namespace Entry

def IsPadded (entry : Entry) : Prop :=
  entry.key.IsPadded ∨ entry.summary.IsPadded

theorem IsPadded.not_accepts {entry : Entry} (padded : entry.IsPadded) :
    accepts entry.key entry.summary = false := by
  apply Bool.eq_false_iff.mpr
  intro fits
  obtain ⟨name, text, keyText, summaryText, trimmedKey, trimmedSummary⟩ :=
    exists_trimmed_of_accepts fits
  rw [IsPadded, keyText, summaryText] at padded
  cases padded with
  | inl key => exact key.trim_ne trimmedKey
  | inr summary => exact summary.trim_ne trimmedSummary

end Entry

namespace Catalog

variable {entry : Entry} {entries before after : List Entry} {stored : Catalog}

section Refused

variable (refused : accepts entry.key entry.summary = false)

include refused

theorem outcome_storeAll_strict_ne_of_refused (member : entry ∈ entries) :
    (storeAll .strict [] entries).outcome ≠ .ok stored := by
  intro loaded
  obtain ⟨key, about⟩ := (outcome_storeAll_eq_ok_iff.mp loaded).1 entry member
  cases about.form.symm.trans refused

/-- A lenient run passes over an entry without the form, if it can be reported. -/
theorem outcome_storeAll_lenient_iff_of_refused :
    (storeAll .lenient [] (before ++ entry :: after)).outcome = .ok stored ↔
      (entry.key.isWritable = true ∧ entry.summary.isWritable = true) ∧
        (storeAll .lenient [] (before ++ after)).outcome = .ok stored := by
  have unstored : entry.valid? = none :=
    Entry.valid?_of_read_error (Entry.read_of_not_accepts refused)
  have reportable : entry.Passes .lenient ↔
      entry.key.isWritable = true ∧ entry.summary.isWritable = true :=
    forall_prop_of_true refused
  rw [outcome_storeAll_eq_ok_iff, outcome_storeAll_eq_ok_iff, List.filterMap_append,
    List.filterMap_cons_none unstored, ← List.filterMap_append, List.forall_mem_append,
    List.forall_mem_cons, List.forall_mem_append, reportable]
  constructor
  · rintro ⟨⟨front, written, back⟩, same⟩
    exact ⟨written, ⟨front, back⟩, same⟩
  · rintro ⟨written, ⟨front, back⟩, same⟩
    exact ⟨⟨front, written, back⟩, same⟩

theorem skipped_mem_log_of_refused
    (loaded : (storeAll .lenient [] (before ++ entry :: after)).outcome = .ok stored) :
    .skipped (.invalid entry.key entry.summary) ∈
      (storeAll .lenient [] (before ++ entry :: after)).log := by
  obtain ⟨notes, noted, log⟩ := exists_notedAll_entries loaded
  obtain ⟨note, here, shape⟩ := noted.exists_note rfl
  rw [shape.eq_invalid_iff.mpr refused] at here
  rw [log]
  apply List.mem_append_left
  exact List.reduceOption_mem_iff.mpr (List.mem_of_getElem? here)

end Refused

end Catalog

/-- Blanks around a summary, a name or a part of a line make no difference to what is
read, but a mapping entry with blanks around its key or its summary is never stored. -/
theorem reads_padded_alike :
    (∀ (padded : Text.Padded) (states : Enumeration) (defaultState : State),
      Config.load (String.ofList padded.text) states defaultState =
        Config.load (String.ofList padded.content) states defaultState) ∧
    (∀ padded : Text.Padded,
      spelledDescriptor padded.text = spelledDescriptor padded.content ∧
        ∀ catalog : Catalog, catalog.find? (String.ofList padded.text) =
          catalog.find? (String.ofList padded.content)) ∧
    (∀ key summary : Text.Padded, ':' ∉ summary.content →
      Entry.ofLine (.text (String.ofList (key.text ++ ':' :: summary.text))) =
        Entry.ofLine (.text (String.ofList (key.content ++ ':' :: summary.content)))) ∧
    (∀ key summary : Value, accepts key summary = true →
      ∃ name text, key = .text name ∧ summary = .text text ∧
        Text.trim name.toList = name.toList ∧ Text.trim text.toList = text.toList) ∧
    ∀ (before after : List (Value × Value)) (entry : Entry), entry.IsPadded →
      let load (mode : Mode) (pairs : List (Value × Value)) : Loading :=
        Catalog.ofDocument mode
          (.mapping [(.text Catalog.rulesName, .mapping pairs)])
      let pairs := before ++ (entry.key, entry.summary) :: after
      entry.read = .error (.invalid entry.key entry.summary) ∧
      ∀ catalog,
        (load .strict pairs).outcome ≠ .ok catalog ∧
        ((load .lenient pairs).outcome = .ok catalog ↔
          (entry.key.isWritable = true ∧ entry.summary.isWritable = true) ∧
            (load .lenient (before ++ after)).outcome = .ok catalog) ∧
        ((load .lenient pairs).outcome = .ok catalog →
          .skipped (.invalid entry.key entry.summary) ∈ (load .lenient pairs).log) := by
  refine ⟨Config.load_padded, ?names, ?lines, fun _ _ => exists_trimmed_of_accepts,
    ?mapped⟩
  case names =>
    intro padded
    exact ⟨spelledDescriptor_padded padded, Catalog.find?_padded padded⟩
  case lines =>
    intro key summary plain
    exact Entry.ofLine_padded key plain
  case mapped =>
    intro before after entry padded load pairs
    have refused := padded.not_accepts
    have loading : ∀ mode pairs,
        load mode pairs = Catalog.storeAll mode [] (Rules.mapping pairs).entries :=
      fun mode pairs => Catalog.ofDocument_toValue (.mapping pairs) mode
    refine ⟨Entry.read_of_not_accepts refused, ?_⟩
    intro catalog
    simp only [loading, pairs, Rules.entries, List.map_append, List.map_cons]
    exact ⟨Catalog.outcome_storeAll_strict_ne_of_refused refused
        (List.mem_append_right _ List.mem_cons_self),
      Catalog.outcome_storeAll_lenient_iff_of_refused refused,
      Catalog.skipped_mem_log_of_refused refused⟩

/-- A summary between blanks is read, and stored from a line, but not from a mapping,
where it is refused as it is written. -/
theorem reads_padded_alike_safe :
    let load (mode : Mode) : Loading :=
      Catalog.ofDocument mode (.mapping [(.text Catalog.rulesName,
        .mapping [(.text "I", .text "\u3000SAFE\n")])])
    let safe : Config :=
      ⟨⟨TaintState.enumeration, ⟨"SAFE", .text "SAFE"⟩, by decide⟩, false, TaintState.null⟩
    Config.loadTaint "\u3000SAFE\n" = Config.loadTaint "SAFE" ∧
      Config.loadTaint "\u3000SAFE\n" = .ok safe ∧
      Entry.ofLine (.text "I:\u3000SAFE\n") = Entry.ofLine (.text "I:SAFE") ∧
      Catalog.find? [("LA;", Config.standard)] "\u3000A\n" = some Config.standard ∧
      accepts (.text "I") (.text "\u3000SAFE\n") = false ∧
      (∀ catalog, (load .strict).outcome ≠ .ok catalog) ∧
      (load .lenient).outcome = .ok [] := by
  obtain ⟨summaries, names, lines, trimmed, mapped⟩ := reads_padded_alike
  intro load safe
  let bare : Text.Padded := ⟨[], ['I'], [], by decide, by decide⟩
  let blanks (content : List Char) : Text.Padded :=
    ⟨['\u3000'], content, ['\n'], by decide, by decide⟩
  have rejected := mapped [] [] ⟨.text "I", .text "\u3000SAFE\n"⟩
    (.inr ⟨blanks "SAFE".toList, .inl (by decide), congrArg Value.text (by decide)⟩)
  have alike : Config.loadTaint "\u3000SAFE\n" = Config.loadTaint "SAFE" :=
    summaries (blanks "SAFE".toList) _ _
  refine ⟨alike, alike.trans (by decide), ?_, ?_, ?_, fun catalog => (rejected.2 catalog).1,
    ?_⟩
  · exact lines bare (blanks "SAFE".toList) (by decide)
  · exact ((names (blanks ['A'])).2 _).trans (by decide)
  · apply Bool.eq_false_iff.mpr
    intro fits
    obtain ⟨_, _, -, same, -, trimmed⟩ := trimmed _ _ fits
    cases same
    exact absurd trimmed (by decide)
  · exact (rejected.2 []).2.1.mpr ⟨⟨rfl, rfl⟩, rfl⟩

end ClassTaint
