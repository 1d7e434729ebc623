import ClassTaint.Proofs.Table.Update

namespace ClassTaint.Table

/-! Putting one table into another. It makes no difference whether entries are
gathered in a table of their own first, and a table that is put into itself stays
as it is. -/

variable {κ : Type u} {α : Type v} [BEq κ] [LawfulBEq κ]
variable {key other : κ} {value old : α} {table : Table κ α}

theorem put_put (key : κ) (old value : α) (table : Table κ α) :
    (table.put key old).put key value = table.put key value := by
  induction table with
  | nil => simp [put]
  | cons entry rest induction =>
      obtain ⟨present, held⟩ := entry
      by_cases same : present = key
      · simp [put, same]
      · simp [put, same, induction]

theorem mem_keys_put_iff :
    other ∈ (table.put key value).keys ↔ other = key ∨ other ∈ table.keys := by
  by_cases member : key ∈ table.keys
  · rw [keys_put_of_mem member]
    constructor
    · exact .inr
    · intro either
      apply either.elim _ id
      intro same
      rw [same]
      exact member
  · rw [keys_put_of_not_mem member, List.mem_append, List.mem_singleton, or_comm]

/-- A key that is there keeps its place, whatever is put behind it. -/
theorem put_comm (present : key ∈ table.keys) (different : key ≠ other)
    (value : α) (held : α) :
    (table.put key value).put other held = (table.put other held).put key value := by
  induction table with
  | nil => cases present
  | cons entry rest induction =>
      obtain ⟨first, before⟩ := entry
      by_cases same : first = key
      · subst same
        simp [put, different]
      · have inRest : key ∈ keys rest := by
          simpa [keys, Ne.symm same] using present
        by_cases here : first = other
        · simp [put, here, different.symm]
        · simp [put, same, here, induction inRest]

theorem update_put_of_not_mem (present : key ∈ table.keys) {entries : List (κ × α)}
    (absent : key ∉ keys entries) (value : α) :
    (table.put key value).update entries = (table.update entries).put key value := by
  induction entries generalizing table with
  | nil => rfl
  | cons entry rest induction =>
      rw [keys_cons, List.mem_cons, not_or] at absent
      have kept : key ∈ (table.put entry.1 entry.2).keys :=
        mem_keys_put_iff.mpr (.inr present)
      rw [update_cons, update_cons, put_comm present absent.1, induction kept absent.2]

theorem update_put {entries : Table κ α} (distinct : entries.keys.Nodup) (key : κ)
    (value : α) (table : Table κ α) :
    table.update (entries.put key value) = (table.update entries).put key value := by
  induction entries generalizing table with
  | nil => rfl
  | cons entry rest induction =>
      obtain ⟨first, held⟩ := entry
      rw [keys_cons, List.nodup_cons] at distinct
      by_cases same : first = key
      · subst same
        have present : first ∈ (table.put first held).keys :=
          mem_keys_put_iff.mpr (.inl rfl)
        calc table.update (put first value ((first, held) :: rest))
            = (table.put first value).update rest := by simp [put, update_cons]
          _ = ((table.put first held).put first value).update rest := by rw [put_put]
          _ = ((table.put first held).update rest).put first value :=
              update_put_of_not_mem present distinct.1 value
      · have shape : put key value ((first, held) :: rest) =
            (first, held) :: put key value rest := by simp [put, same]
        rw [shape, update_cons, update_cons, induction distinct.2]

/-- Updates are associative. -/
theorem update_update {middle : Table κ α} (distinct : middle.keys.Nodup)
    (table : Table κ α) (entries : List (κ × α)) :
    table.update (middle.update entries) = (table.update middle).update entries := by
  induction entries generalizing middle with
  | nil => rfl
  | cons entry rest induction =>
      rw [update_cons, induction (nodup_keys_put distinct entry.1 entry.2),
        update_put distinct, update_cons]

theorem ofEntries_append (front back : List (κ × α)) :
    ofEntries (front ++ back) = (ofEntries front).update (ofEntries back) := by
  have empty : (keys ([] : Table κ α)).Nodup := List.nodup_nil
  rw [ofEntries, update_append, ofEntries, ofEntries, update_update empty]
  rfl

theorem put_of_get? (found : table.get? key = some value) :
    table.put key value = table := by
  induction table with
  | nil => cases found
  | cons entry rest induction =>
      obtain ⟨first, held⟩ := entry
      by_cases same : first = key
      · have values : held = value := by simpa [get?, same] using found
        simp [put, same, values]
      · have inRest : get? key rest = some value := by simpa [get?, same] using found
        simp [put, same, induction inRest]

theorem update_of_get? {entries : List (κ × α)}
    (found : ∀ entry ∈ entries, table.get? entry.1 = some entry.2) :
    table.update entries = table := by
  induction entries with
  | nil => rfl
  | cons entry rest induction =>
      obtain ⟨first, others⟩ := List.forall_mem_cons.mp found
      rw [update_cons, put_of_get? first, induction others]

theorem get?_of_mem (distinct : table.keys.Nodup) {entry : κ × α}
    (member : entry ∈ table) : table.get? entry.1 = some entry.2 := by
  induction table with
  | nil => cases member
  | cons first rest induction =>
      obtain ⟨present, held⟩ := first
      rw [keys_cons, List.nodup_cons] at distinct
      rcases List.mem_cons.mp member with rfl | inRest
      · simp [get?]
      · have different : present ≠ entry.1 := by
          intro same
          apply distinct.1
          rw [same]
          exact List.mem_map.mpr ⟨entry, inRest, rfl⟩
        simp [get?, different, induction distinct.2 inRest]

theorem update_self (distinct : table.keys.Nodup) : table.update table = table := by
  apply update_of_get?
  intro entry member
  exact get?_of_mem distinct member

section Distinct

variable {entries : Table κ α}

theorem eraseDups_of_nodup {names : List κ} (distinct : names.Nodup) :
    names.eraseDups = names := by
  have labelled : keys (names.map fun name => (name, ())) = names := by
    rw [keys, List.map_map]
    exact List.map_id names
  have same := keys_ofEntries (names.map fun name => (name, ()))
  rw [ofEntries_of_nodup (labelled.symm ▸ distinct), labelled] at same
  exact same.symm

/-- The keys that are new stand behind the others, in their order. -/
theorem keys_update_of_nodup (distinct : entries.keys.Nodup) (table : Table κ α) :
    (table.update entries).keys =
      table.keys ++ entries.keys.filter fun key => !table.contains key := by
  have same : ∀ key, (!table.keys.contains key) = !table.contains key := by
    intro key
    exact congrArg not (Bool.eq_iff_iff.mpr (List.contains_iff_mem.trans contains_iff.symm))
  rw [keys_update, eraseDups_of_nodup (distinct.filter _)]
  simp only [same]

theorem get?_update_of_nodup (distinct : entries.keys.Nodup) (key : κ)
    (table : Table κ α) :
    (table.update entries).get? key = (entries.get? key).or (table.get? key) := by
  rw [get?_update, ← get?_ofEntries, ofEntries_of_nodup distinct]

theorem length_update_of_nodup (distinct : entries.keys.Nodup) (table : Table κ α) :
    (table.update entries).length + entries.keys.countP (table.contains ·) =
      table.length + entries.length := by
  have split := List.length_eq_countP_add_countP (fun key => table.contains key)
    (l := entries.keys)
  rw [← length_keys, keys_update_of_nodup distinct, List.length_append, length_keys,
    ← List.countP_eq_length_filter, ← length_keys entries, split]
  simp
  omega

end Distinct

end ClassTaint.Table
