import ClassTaint.Proofs.Catalog.Accounting
import ClassTaint.Proofs.Summary.Form
import Mathlib.Data.List.Nodup

namespace ClassTaint

/-! Rules as lines and rules as a mapping. The same pairs of a descriptor and a
summary can be written either way. -/

def Entry.ofPair (pair : String × String) : Entry :=
  ⟨.text pair.1, .text pair.2⟩

namespace Rules

def listed (pairs : List (String × String)) : Rules :=
  .lines (pairs.map fun (key, summary) => .text (key ++ ":" ++ summary))

def mapped (pairs : List (String × String)) : Rules :=
  .mapping (Table.ofEntries (pairs.map (Prod.map Value.text Value.text)))

variable {pairs : List (String × String)}

theorem mapped_eq (pairs : List (String × String)) :
    mapped pairs =
      .mapping ((Table.ofEntries pairs).map (Prod.map Value.text Value.text)) :=
  congrArg mapping
    (Table.ofEntries_map Value.text Value.text (fun _ _ => rfl) pairs)

theorem entries_mapped (pairs : List (String × String)) :
    (mapped pairs).entries = (Table.ofEntries pairs).map Entry.ofPair := by
  rw [mapped_eq, entries, List.map_map]
  rfl

end Rules

/-- The pair can be written in a line and read back. -/
structure IsLinePair (pair : String × String) : Prop where
  key : Text.trim pair.1.toList = pair.1.toList
  summary : Text.trim pair.2.toList = pair.2.toList
  plain : ':' ∉ pair.2.toList

theorem IsLinePair.ofLine_eq {pair : String × String} (written : IsLinePair pair) :
    Entry.ofLine (.text (pair.1 ++ ":" ++ pair.2)) = Entry.ofPair pair := by
  have split : splitAtLast ':' (pair.1 ++ ":" ++ pair.2).toList =
      some (pair.1.toList, pair.2.toList) := by
    rw [String.toList_append, String.toList_append, List.append_assoc]
    exact splitAtLast_append written.plain pair.1.toList
  simp only [Entry.ofLine, split, written.key, written.summary,
    String.ofList_toList]
  rfl

theorem Rules.entries_listed {pairs : List (String × String)}
    (written : ∀ pair ∈ pairs, IsLinePair pair) :
    (listed pairs).entries = pairs.map Entry.ofPair := by
  rw [listed, entries, List.map_map]
  exact List.map_congr_left fun pair member => (written pair member).ofLine_eq

theorem Entry.IsAbout.isLinePair {pair : String × String} {key : String}
    (about : (ofPair pair).IsAbout key) : IsLinePair pair := by
  obtain ⟨_, _, sameKey, sameSummary, written, form⟩ :=
    exists_text_of_accepts about.form
  cases sameKey
  cases sameSummary
  exact ⟨trim_of_isDescriptor written, trim_of_isSummary form,
    colon_not_mem_of_isSummary form⟩

section Repetitions

variable {κ : Type u} [DecidableEq κ] {keys seen : List κ}

/-- The keys that are met again, once for each time. -/
def repetitions (seen : List κ) : List κ → List κ
  | [] => []
  | key :: rest =>
      if key ∈ seen then
        key :: repetitions seen rest
      else
        repetitions (seen ++ [key]) rest

theorem count_repetitions (key : κ) (seen keys : List κ) :
    (repetitions seen keys).count key =
      if key ∈ seen then keys.count key else keys.count key - 1 := by
  induction keys generalizing seen with
  | nil => simp [repetitions]
  | cons first rest induction =>
      by_cases same : first = key
      · subst same
        by_cases member : first ∈ seen
        · simp [repetitions, member, induction]
        · simp [repetitions, member, induction]
      · by_cases member : first ∈ seen
        · simp [repetitions, member, induction, same]
        · simp [repetitions, member, induction, same, Ne.symm same]

theorem repetitions_of_nodup (distinct : keys.Nodup) : repetitions [] keys = [] := by
  apply List.eq_nil_iff_forall_not_mem.mpr
  intro key member
  have once := List.nodup_iff_count_le_one.mp distinct key
  have counted := count_repetitions key [] keys
  rw [if_neg List.not_mem_nil] at counted
  have positive := List.count_pos_iff.mpr member
  omega

end Repetitions

namespace Catalog

variable {mode : Mode} {pairs : List (String × String)} {read : String → Config}

theorem storeAll_ofPair
    (reads : ∀ pair ∈ pairs, (Entry.ofPair pair).read = .ok (pair.1, read pair.2))
    (catalog : Catalog) :
    storeAll mode catalog (pairs.map Entry.ofPair) =
      let stored := catalog.update (pairs.map (Prod.map id read))
      ⟨.ok stored,
        (repetitions (Table.keys catalog) (Table.keys pairs)).map .duplicate ++
          [.loaded stored.length]⟩ := by
  induction pairs generalizing catalog with
  | nil => rfl
  | cons pair rest induction =>
      obtain ⟨first, others⟩ := List.forall_mem_cons.mp reads
      rw [List.map_cons, storeAll_of_valid first, induction others, List.map_cons,
        Table.update_cons, Table.keys_cons, repetitions]
      by_cases member : pair.1 ∈ Table.keys catalog
      · rw [if_pos (Table.contains_iff.mpr member), if_pos member,
          Table.keys_put_of_mem member]
        rfl
      · rw [if_neg (mt Table.contains_iff.mp member), if_neg member,
          Table.keys_put_of_not_mem member]
        rfl

theorem storeAll_nil_ofPair
    (reads : ∀ pair ∈ pairs, (Entry.ofPair pair).read = .ok (pair.1, read pair.2)) :
    storeAll mode [] (pairs.map Entry.ofPair) =
      let stored := Table.ofEntries (pairs.map (Prod.map id read))
      ⟨.ok stored,
        (repetitions [] (Table.keys pairs)).map .duplicate ++ [.loaded stored.length]⟩ :=
  storeAll_ofPair reads []

theorem exists_reading
    (about : ∀ pair ∈ pairs, (Entry.ofPair pair).IsAbout pair.1) :
    ∃ read : String → Config, ∀ pair ∈ pairs,
      (Entry.ofPair pair).read = .ok (pair.1, read pair.2) := by
  refine ⟨fun summary => (Config.loadTaint summary).toOption.getD Config.standard, ?_⟩
  intro pair member
  obtain ⟨config, stores⟩ := about pair member
  have loaded := Value.loadTaint_text_eq_ok_iff.mp stores.config
  simp only [stores.read_eq, loaded]
  rfl

/-- Rules may be written as lines or as a mapping. Pairs under different keys mean
the same in both, even if they are no entries. Under equal keys the valid ones do,
and only the lines leave a note for each repetition. -/
theorem ofDocument_listed_mapped (pairs : List (String × String)) :
    let lines : Value :=
      .list (pairs.map fun (key, summary) => .text (key ++ ":" ++ summary))
    let mapping : Value := .ofPairs (pairs.map (Prod.map .text .text))
    let listed (mode : Mode) := ofDocument mode (.mapping [(.text rulesName, lines)])
    let mapped (mode : Mode) := ofDocument mode (.mapping [(.text rulesName, mapping)])
    ((Table.keys pairs).Nodup → (∀ pair ∈ pairs, IsLinePair pair) →
      ∀ mode, listed mode = mapped mode) ∧
    ((∀ pair ∈ pairs, (Entry.ofPair pair).IsAbout pair.1) →
      ∃ (catalog : Catalog) (repeated : List String),
        (∀ mode,
          mapped mode = ⟨.ok catalog, [.loaded catalog.length]⟩ ∧
          listed mode = ⟨.ok catalog,
            repeated.map .duplicate ++ [.loaded catalog.length]⟩) ∧
        repeated = repetitions [] (Table.keys pairs) ∧
        ∀ key, repeated.count key = (Table.keys pairs).count key - 1) ∧
    ∃ merged : Table String String,
      mapping = .mapping (merged.map (Prod.map .text .text)) ∧
      merged.keys = (Table.keys pairs).eraseDups ∧
      ∀ key, merged.get? key = Table.get? key pairs.reverse := by
  intro lines mapping listed mapped
  have split : ∀ mode, listed mode = storeAll mode [] (Rules.listed pairs).entries :=
    ofDocument_of_rules (Rules.ofDocument_singleton (Rules.listed pairs) rulesName)
  have merged : ∀ mode, mapped mode =
      storeAll mode [] ((Table.ofEntries pairs).map Entry.ofPair) := by
    intro mode
    rw [← Rules.entries_mapped]
    exact ofDocument_of_rules
      (Rules.ofDocument_singleton (Rules.mapped pairs) rulesName) mode
  refine ⟨?distinct, ?valid, ?merged⟩
  case distinct =>
    intro distinct written mode
    rw [split, merged, Rules.entries_listed written, Table.ofEntries_of_nodup distinct]
  case valid =>
    intro about
    obtain ⟨read, reads⟩ := exists_reading about
    -- The mapping holds pairs of the list only, so its entries are read alike.
    have kept : ∀ pair ∈ Table.ofEntries pairs,
        (Entry.ofPair pair).read = .ok (pair.1, read pair.2) :=
      fun pair member => reads pair (Table.mem_of_mem_ofEntries member)
    have same : Table.ofEntries ((Table.ofEntries pairs).map (Prod.map id read)) =
        Table.ofEntries (pairs.map (Prod.map id read)) := by
      rw [← Table.ofEntries_map id read fun _ _ => rfl]
      exact Table.ofEntries_of_nodup (Table.nodup_keys_ofEntries _)
    refine ⟨Table.ofEntries (pairs.map (Prod.map id read)),
      repetitions [] (Table.keys pairs), ?_, rfl, ?_⟩
    · intro mode
      constructor
      · rw [merged, storeAll_nil_ofPair kept, same,
          repetitions_of_nodup (Table.nodup_keys_ofEntries pairs)]
        rfl
      · rw [split, Rules.entries_listed fun pair member => (about pair member).isLinePair,
          storeAll_nil_ofPair reads]
    · intro key
      rw [count_repetitions, if_neg List.not_mem_nil]
  case merged =>
    exact ⟨_, congrArg Rules.toValue (Rules.mapped_eq pairs), Table.keys_ofEntries pairs,
      fun key => Table.get?_ofEntries key pairs⟩

/-- A key with a colon and an unknown state, and then a key that is met again. -/
theorem ofDocument_listed_mapped_colon :
    (∀ mode,
      ofDocument mode (.mapping [(.text rulesName,
        .list [.text "a:b:SAFE", .text "I:MAYBE"])]) =
      ofDocument mode (.mapping [(.text rulesName,
        .mapping [(.text "a:b", .text "SAFE"), (.text "I", .text "MAYBE")])])) ∧
    ∃ catalog, ∀ mode,
      ofDocument mode (.mapping [(.text rulesName,
        .list [.text "I:SAFE", .text "J:NULL", .text "I:#IMMUTABLE"])]) =
      ⟨.ok catalog, [.duplicate "I", .loaded catalog.length]⟩ := by
  constructor
  · refine (ofDocument_listed_mapped [("a:b", "SAFE"), ("I", "MAYBE")]).1
      (by decide) ?_
    intro pair member
    rcases List.mem_pair.mp member with rfl | rfl
    all_goals exact ⟨by decide, by decide, by decide⟩
  · obtain ⟨catalog, repeated, loaded, rfl, -⟩ := (ofDocument_listed_mapped
      [("I", "SAFE"), ("J", "NULL"), ("I", "#IMMUTABLE")]).2.1 (by
        intro pair member
        simp only [List.mem_cons, List.not_mem_nil, or_false] at member
        rcases member with rfl | rfl | rfl
        all_goals exact ⟨_, rfl, by decide, rfl⟩)
    exact ⟨catalog, fun mode => (loaded mode).2⟩

end Catalog

end ClassTaint
