import ClassTaint.Proofs.Catalog.Accounting
import ClassTaint.Proofs.Table.Merge

namespace ClassTaint

/-! Rules behind other rules. A run over both goes on where the run over the first
has come to, and what it stores and notes is what the two store and note alone. -/

def Record.isLoaded : Record → Bool
  | loaded _ => true
  | _ => false

def warnings (log : List Record) : List Record :=
  log.filter fun record => record.level = .warning

theorem length_warnings (log : List Record) :
    (warnings log).length = warningCount log :=
  List.countP_eq_length_filter.symm

theorem warnings_append (front back : List Record) :
    warnings (front ++ back) = warnings front ++ warnings back :=
  List.filter_append ..

theorem warnings_skipped (error : EntryError) (log : List Record) :
    warnings (.skipped error :: log) = .skipped error :: warnings log :=
  List.filter_cons_of_pos (by rfl)

theorem warnings_duplicate (key : String) (log : List Record) :
    warnings (.duplicate key :: log) = warnings log :=
  List.filter_cons_of_neg (by simp [Record.level])

theorem warnings_unfinished (log : List Record) :
    warnings (log.filter (!·.isLoaded)) = warnings log := by
  rw [warnings, List.filter_filter]
  apply List.filter_congr
  intro record member
  cases record <;> rfl

namespace Loading

/-- Goes on from the catalog that was loaded. Only the whole is noted as loaded. -/
def andThen (first : Loading) (next : Catalog → Loading) : Loading :=
  match first.outcome with
  | .ok catalog =>
      ⟨(next catalog).outcome, first.log.filter (!·.isLoaded) ++ (next catalog).log⟩
  | .error _ => first

variable {first : Loading} {next : Catalog → Loading} {catalog : Catalog}

theorem andThen_of_ok (loaded : first.outcome = .ok catalog) :
    first.andThen next =
      ⟨(next catalog).outcome,
        first.log.filter (!·.isLoaded) ++ (next catalog).log⟩ := by
  rw [andThen, loaded]

theorem andThen_of_error {error : CatalogError}
    (failed : first.outcome = .error error) : first.andThen next = first := by
  rw [andThen, failed]

theorem andThen_note {record : Record} (unfinished : record.isLoaded = false) :
    (first.note record).andThen next = (first.andThen next).note record := by
  cases outcome : first.outcome with
  | ok catalog =>
      have noted : (first.note record).outcome = .ok catalog := outcome
      rw [andThen_of_ok outcome, andThen_of_ok noted, log_note,
        List.filter_cons_of_pos (by simp [unfinished])]
      rfl
  | error error =>
      have noted : (first.note record).outcome = .error error := outcome
      rw [andThen_of_error outcome, andThen_of_error noted]

end Loading

namespace Catalog

variable {mode : Mode} {front back entries : List Entry} {stored : Catalog}

theorem storeAll_append (mode : Mode) (catalog : Catalog) (front back : List Entry) :
    storeAll mode catalog (front ++ back) =
      (storeAll mode catalog front).andThen fun stored => storeAll mode stored back := by
  induction front generalizing catalog with
  | nil => rfl
  | cons entry rest induction =>
      rw [List.cons_append]
      cases entry.reading with
      | valid read =>
          rw [storeAll_of_valid read, storeAll_of_valid read, induction]
          split
          · rw [Loading.andThen_note rfl]
          · rfl
      | skipped failed writable =>
          cases mode with
          | strict =>
              rw [storeAll_strict_of_error failed writable,
                storeAll_strict_of_error failed writable]
              rfl
          | lenient =>
              rw [storeAll_lenient_of_error failed writable,
                storeAll_lenient_of_error failed writable, induction,
                Loading.andThen_note rfl]
      | unreportable failed unwritable =>
          rw [storeAll_of_unwritable failed unwritable,
            storeAll_of_unwritable failed unwritable]
          rfl

theorem storeAll_of_fault {catalog : Catalog} {entry : Entry} {fault : WritingFault}
    (found : entry.writingFault? = some fault) :
    storeAll mode catalog (entry :: entries) = ⟨.error (.ofWriting fault), []⟩ := by
  cases read : entry.read with
  | ok pair => cases (Entry.writingFault?_of_read_ok read).symm.trans found
  | error error =>
      rw [Entry.writingFault?_of_read_error read] at found
      exact storeAll_of_unwritable read found

theorem exists_storeAll_lenient_iff (catalog : Catalog) :
    (∃ final, (storeAll .lenient catalog entries).outcome = .ok final) ↔
      ∀ entry ∈ entries, entry.IsReportable := by
  constructor
  · intro loaded
    obtain ⟨final, loaded⟩ := loaded
    cases first : entries.findSome? Entry.writingFault? with
    | none => exact findSome?_writingFault_eq_none_iff.mp first
    | some fault => cases loaded.symm.trans (outcome_storeAll_of_fault first)
  · intro reportable
    exact ⟨_, outcome_storeAll_of_reportable reportable⟩

theorem exists_storeAll_strict_iff (catalog : Catalog) :
    (∃ final, (storeAll .strict catalog entries).outcome = .ok final) ↔
      ∀ entry ∈ entries, ∃ key, entry.IsAbout key := by
  have refused : ∀ {entry : Entry} {error : EntryError}, entry.read = .error error →
      ¬ ∃ key, entry.IsAbout key :=
    fun failed => not_exists.mpr fun _ => Entry.not_isAbout_of_read_error failed
  induction entries generalizing catalog with
  | nil => exact ⟨fun _ => nofun, fun _ => ⟨catalog, rfl⟩⟩
  | cons entry rest induction =>
      rw [List.forall_mem_cons]
      cases entry.reading with
      | valid read =>
          have about : ∃ key, entry.IsAbout key := ⟨_, _, Entry.read_eq_ok_iff.mp read⟩
          rw [outcome_storeAll_of_valid read]
          exact (induction _).trans (and_iff_right about).symm
      | skipped failed writable =>
          rw [storeAll_strict_of_error failed writable]
          exact ⟨nofun, fun all => absurd all.1 (refused failed)⟩
      | unreportable failed unwritable =>
          rw [storeAll_of_unwritable failed unwritable]
          exact ⟨nofun, fun all => absurd all.1 (refused failed)⟩

theorem warnings_storeAll_of_valid {entry : Entry} {key : String} {config : Config}
    (read : entry.read = .ok (key, config)) (catalog : Catalog) (rest : List Entry) :
    warnings (storeAll .lenient catalog (entry :: rest)).log =
      warnings (storeAll .lenient (catalog.put key config) rest).log := by
  rw [storeAll_of_valid read]
  split
  · rw [Loading.log_note, warnings_duplicate]
  · rfl

theorem warnings_storeAll_eq (catalog other : Catalog) (entries : List Entry) :
    warnings (storeAll .lenient catalog entries).log =
      warnings (storeAll .lenient other entries).log := by
  -- The runs may note other duplicates, since their catalogs differ all the way.
  induction entries generalizing catalog other with
  | nil => rfl
  | cons entry rest induction =>
      cases entry.reading with
      | valid read =>
          rw [warnings_storeAll_of_valid read, warnings_storeAll_of_valid read, induction]
      | skipped failed writable =>
          rw [storeAll_lenient_of_error failed writable,
            storeAll_lenient_of_error failed writable, Loading.log_note,
            Loading.log_note, warnings_skipped, warnings_skipped, induction]
      | unreportable failed unwritable =>
          rw [storeAll_of_unwritable failed unwritable,
            storeAll_of_unwritable failed unwritable]

theorem warnings_storeAll_append
    (loaded : (storeAll .lenient [] front).outcome = .ok stored) (back : List Entry) :
    warnings (storeAll .lenient [] (front ++ back)).log =
      warnings (storeAll .lenient [] front).log ++
        warnings (storeAll .lenient [] back).log := by
  rw [storeAll_append, Loading.andThen_of_ok loaded, warnings_append,
    warnings_unfinished, warnings_storeAll_eq stored []]

theorem eq_of_loaded (loaded : (storeAll .lenient [] entries).outcome = .ok stored) :
    stored = Table.ofEntries (entries.filterMap Entry.valid?) := by
  have reportable := (exists_storeAll_lenient_iff []).mp ⟨stored, loaded⟩
  cases loaded.symm.trans (outcome_storeAll_of_reportable reportable)
  rfl

theorem nodup_keys_of_loaded
    (loaded : (storeAll .lenient [] entries).outcome = .ok stored) :
    (Table.keys stored).Nodup := by
  rw [eq_of_loaded loaded]
  exact Table.nodup_keys_ofEntries _

theorem outcome_storeAll_append {added : Catalog}
    (first : (storeAll .lenient [] front).outcome = .ok stored)
    (second : (storeAll .lenient [] back).outcome = .ok added) :
    (storeAll .lenient [] (front ++ back)).outcome = .ok (stored.update added) := by
  have reportable : ∀ entry ∈ front ++ back, entry.IsReportable :=
    List.forall_mem_append.mpr
      ⟨(exists_storeAll_lenient_iff []).mp ⟨stored, first⟩,
        (exists_storeAll_lenient_iff []).mp ⟨added, second⟩⟩
  rw [outcome_storeAll_of_reportable reportable, eq_of_loaded first,
    eq_of_loaded second, ← Table.ofEntries_append, List.filterMap_append]
  rfl

/-- Beyond the duplicates of the parts, each common key is met again once. -/
theorem duplicateCount_storeAll_append {added : Catalog}
    (first : (storeAll .lenient [] front).outcome = .ok stored)
    (second : (storeAll .lenient [] back).outcome = .ok added) :
    duplicateCount (storeAll .lenient [] (front ++ back)).log =
      duplicateCount (storeAll .lenient [] front).log +
        duplicateCount (storeAll .lenient [] back).log +
        (Table.keys added).countP (stored.contains ·) := by
  have accounts := length_storeAll (outcome_storeAll_append first second)
  have firstAccount := length_storeAll first
  have secondAccount := length_storeAll second
  have skips := congrArg List.length (warnings_storeAll_append first back)
  have merged := Table.length_update_of_nodup (nodup_keys_of_loaded second) stored
  simp only [List.length_append, length_warnings, List.length_nil] at *
  omega

theorem ofDocument_list (mode : Mode) (items : List Value) :
    ofDocument mode (.mapping [(.text rulesName, .list items)]) =
      storeAll mode [] (items.map Entry.ofLine) :=
  ofDocument_toValue (.lines items) mode

/-- A list of rules that is loaded makes a catalog, and lists behind one another make
the first catalog updated with the second. Behind a list that is not loaded nothing is
read any more. -/
theorem ofDocument_append (front back : List Value) :
    let load (mode : Mode) (items : List Value) : Loading :=
      ofDocument mode (.mapping [(.text rulesName, .list items)])
    let loads (mode : Mode) (items : List Value) : Prop :=
      ∃ catalog, (load mode items).outcome = .ok catalog
    (∀ items, loads .lenient items ↔
      ∀ item ∈ items, (Entry.ofLine item).IsReportable) ∧
    (loads .lenient (front ++ back) ↔ loads .lenient front ∧ loads .lenient back) ∧
    (loads .strict (front ++ back) ↔ loads .strict front ∧ loads .strict back) ∧
    (¬ loads .lenient front →
      load .lenient (front ++ back) = load .lenient front) ∧
    ∀ first, (load .lenient front).outcome = .ok first →
      warnings (load .lenient (front ++ back)).log =
        warnings (load .lenient front).log ++ warnings (load .lenient back).log ∧
      (load .lenient (front ++ front)).outcome = .ok first ∧
      ∀ second, (load .lenient back).outcome = .ok second →
        (load .lenient (front ++ back)).outcome = .ok (Table.update first second) ∧
        Table.keys (Table.update first second) =
          Table.keys first ++
            (Table.keys second).filter (fun key => !Table.contains key first) ∧
        (∀ key, Table.get? key (Table.update first second) =
          (Table.get? key second).or (Table.get? key first)) ∧
        duplicateCount (load .lenient (front ++ back)).log =
          duplicateCount (load .lenient front).log +
            duplicateCount (load .lenient back).log +
            (Table.keys second).countP (Table.contains · first) := by
  intro load loads
  have listed : ∀ mode items, load mode items = storeAll mode [] (items.map .ofLine) :=
    ofDocument_list
  have reported : ∀ items, loads .lenient items ↔
      ∀ item ∈ items, (Entry.ofLine item).IsReportable := by
    intro items
    simp only [loads, listed, exists_storeAll_lenient_iff, List.forall_mem_map]
  have stored : ∀ items, loads .strict items ↔
      ∀ item ∈ items, ∃ key, (Entry.ofLine item).IsAbout key := by
    intro items
    simp only [loads, listed, exists_storeAll_strict_iff, List.forall_mem_map]
  refine ⟨reported, ?_, ?_, ?_, ?_⟩
  · rw [reported, reported, reported, List.forall_mem_append]
  · rw [stored, stored, stored, List.forall_mem_append]
  · intro unloaded
    cases outcome : (load .lenient front).outcome with
    | ok catalog => exact absurd ⟨catalog, outcome⟩ unloaded
    | error error =>
        rw [listed] at outcome
        rw [listed, listed, List.map_append, storeAll_append,
          Loading.andThen_of_error outcome]
  · intro first loaded
    simp only [listed, List.map_append] at loaded ⊢
    refine ⟨warnings_storeAll_append loaded _, ?_, ?_⟩
    · rw [outcome_storeAll_append loaded loaded,
        Table.update_self (nodup_keys_of_loaded loaded)]
    · intro second added
      have apart := nodup_keys_of_loaded added
      exact ⟨outcome_storeAll_append loaded added, Table.keys_update_of_nodup apart first,
        fun key => Table.get?_update_of_nodup apart key first,
        duplicateCount_storeAll_append loaded added⟩

/-- Behind a number that is just too long a line is not even noted as skipped. -/
theorem ofDocument_append_longNumber :
    let load (items : List Value) : Loading :=
      ofDocument .lenient (.mapping [(.text rulesName, .list items)])
    let long : List Value := [.integer (.ofNat Number.leastUnwritable)]
    warnings (load (long ++ [.text "V"])).log ≠
      warnings (load long).log ++ warnings (load [.text "V"]).log := by
  intro load long
  have silent : ∀ rest, warnings (load (long ++ rest)).log = [] := by
    intro rest
    have stopped : load (long ++ rest) = ⟨.error .unwritable, []⟩ :=
      (ofDocument_list .lenient (long ++ rest)).trans
        (storeAll_of_fault Entry.writingFault?_longNumber)
    rw [stopped]
    rfl
  have alone : warnings (load long).log = [] := silent []
  have skipped : (Entry.ofLine (.text "V")).read =
      .error (.invalid (.text "V") .null) := Entry.read_ofLine_of_not_mem (by decide)
  have noted : load [.text "V"] =
      ⟨.ok [], [.skipped (.invalid (.text "V") .null), .loaded 0]⟩ :=
    (ofDocument_list .lenient [.text "V"]).trans
      (storeAll_lenient_of_error skipped rfl)
  rw [silent, alone, noted, warnings_skipped]
  exact List.cons_ne_nil _ _ ∘ Eq.symm

end Catalog

end ClassTaint
