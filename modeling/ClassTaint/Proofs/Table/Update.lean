import ClassTaint.Table

namespace ClassTaint.Table

/-! Putting many entries into a table, one after the other. The keys stand in
order of their first entry, and each has the value of its last one. -/

variable {κ : Type u} {α : Type v}

theorem keys_cons (entry : κ × α) (rest : Table κ α) :
    keys (entry :: rest) = entry.1 :: keys rest := rfl

theorem length_keys (table : Table κ α) : table.keys.length = table.length :=
  List.length_map _

variable [BEq κ]

theorem update_cons (table : Table κ α) (entry : κ × α)
    (entries : List (κ × α)) :
    table.update (entry :: entries) =
      (table.put entry.1 entry.2).update entries := rfl

theorem update_append (table : Table κ α) (front back : List (κ × α)) :
    table.update (front ++ back) = (table.update front).update back :=
  List.foldl_append

section Maps

variable {ι : Type w} {β : Type z} [BEq ι] (rename : κ → ι) (change : α → β)

theorem put_map (same : ∀ key other, (rename key == rename other) = (key == other))
    (key : κ) (value : α) (table : Table κ α) :
    put (rename key) (change value) (table.map (Prod.map rename change)) =
      (table.put key value).map (Prod.map rename change) := by
  induction table with
  | nil => rfl
  | cons entry rest induction =>
      obtain ⟨present, old⟩ := entry
      simp only [List.map_cons, Prod.map_apply, put, same, induction]
      split <;> rfl

/-- Keys that stay apart can be renamed before or after. -/
theorem ofEntries_map
    (same : ∀ key other, (rename key == rename other) = (key == other))
    (entries : List (κ × α)) :
    ofEntries (entries.map (Prod.map rename change)) =
      (ofEntries entries).map (Prod.map rename change) := by
  have kept : ∀ table : Table κ α,
      update (table.map (Prod.map rename change))
          (entries.map (Prod.map rename change)) =
        (table.update entries).map (Prod.map rename change) := by
    induction entries with
    | nil => exact fun _ => rfl
    | cons entry rest induction =>
        intro table
        rw [List.map_cons, update_cons, update_cons, ← induction]
        exact congrArg (update · _) (put_map rename change same entry.1 entry.2 table)
  exact kept []

end Maps

theorem get?_eq_findSome? (key : κ) (table : Table κ α) :
    table.get? key =
      table.findSome? fun entry =>
        if entry.1 == key then some entry.2 else none := by
  induction table with
  | nil => rfl
  | cons entry rest induction =>
      obtain ⟨present, value⟩ := entry
      rw [get?, List.findSome?_cons, induction]
      cases same : present == key <;> simp

theorem get?_append (key : κ) (front back : Table κ α) :
    get? key (front ++ back) = (get? key front).or (get? key back) := by
  rw [get?_eq_findSome?, get?_eq_findSome?, get?_eq_findSome?,
    List.findSome?_append]

theorem get?_filterMap {β : Type w} (select : β → Option (κ × α)) (key : κ)
    (items : List β) :
    get? key (items.filterMap select) =
      items.findSome? fun item => get? key (select item).toList := by
  induction items with
  | nil => rfl
  | cons item rest induction =>
      cases selected : select item with
      | none =>
          rw [List.filterMap_cons_none selected, induction,
            List.findSome?_cons_of_isNone]
          simp [selected, get?]
      | some entry =>
          rw [List.filterMap_cons_some selected, List.findSome?_cons, ← induction,
            selected, Option.toList_some, ← List.singleton_append, get?_append]
          cases get? key [entry] <;> rfl

variable [LawfulBEq κ]

theorem get?_put (key other : κ) (value : α) (table : Table κ α) :
    (table.put key value).get? other =
      (get? other [(key, value)]).or (table.get? other) := by
  by_cases same : other = key
  · subst same
    simp [get?]
  · simp [get?_put_of_ne same, get?, Ne.symm same]

/-- The last entry with a key is the first one when they are gone through
backwards. -/
theorem get?_update (key : κ) (table : Table κ α) (entries : List (κ × α)) :
    (table.update entries).get? key =
      (get? key entries.reverse).or (table.get? key) := by
  induction entries generalizing table with
  | nil => rfl
  | cons entry rest induction =>
      rw [update_cons, induction, get?_put, List.reverse_cons, get?_append,
        Option.or_assoc]

theorem get?_ofEntries (key : κ) (entries : List (κ × α)) :
    (ofEntries entries).get? key = get? key entries.reverse := by
  rw [ofEntries, get?_update]
  exact Option.or_none

theorem keys_put_of_not_mem {key : κ} {table : Table κ α}
    (absent : key ∉ table.keys) (value : α) :
    (table.put key value).keys = table.keys ++ [key] := by
  rw [put_of_not_mem absent]
  exact List.map_append

/-- Only the keys that are new to the table are put behind it. -/
theorem keys_update (table : Table κ α) (entries : List (κ × α)) :
    (table.update entries).keys =
      table.keys ++
        ((keys entries).filter fun key => !table.keys.contains key).eraseDups := by
  induction entries generalizing table with
  | nil => exact (List.append_nil _).symm
  | cons entry rest induction =>
      obtain ⟨key, value⟩ := entry
      rw [update_cons, induction, keys_cons]
      by_cases member : key ∈ table.keys
      · rw [keys_put_of_mem member, List.filter_cons_of_neg]
        simpa using member
      · have others : ∀ other,
            (!(table.keys ++ [key]).contains other) =
              (!other == key && !table.keys.contains other) := by
          intro other
          rw [Bool.eq_iff_iff]
          simp [and_comm]
        rw [keys_put_of_not_mem member, List.filter_cons_of_pos (by simpa using member),
          List.eraseDups_cons, List.filter_filter, List.append_assoc]
        simp only [others]
        rfl

theorem keys_ofEntries (entries : List (κ × α)) :
    (ofEntries entries).keys = (keys entries).eraseDups := by
  rw [ofEntries, keys_update]
  exact congrArg List.eraseDups (List.filter_eq_self.mpr fun _ _ => rfl)

theorem mem_put {key : κ} {value : α} {table : Table κ α} {entry : κ × α}
    (member : entry ∈ table.put key value) : entry = (key, value) ∨ entry ∈ table := by
  induction table with
  | nil => exact .inl (List.mem_singleton.mp member)
  | cons first rest induction =>
      obtain ⟨present, old⟩ := first
      by_cases same : present = key
      · simp only [put, same, beq_self_eq_true, if_true, List.mem_cons] at member
        exact member.imp_right (List.mem_cons_of_mem _)
      · simp only [put, beq_eq_false_iff_ne.mpr same, Bool.false_eq_true, if_false,
          List.mem_cons] at member
        rcases member with here | later
        · exact .inr (here ▸ List.mem_cons_self)
        · exact (induction later).imp_right (List.mem_cons_of_mem _)

theorem mem_of_mem_ofEntries {entries : List (κ × α)} {entry : κ × α}
    (member : entry ∈ ofEntries entries) : entry ∈ entries := by
  have kept : ∀ table : Table κ α,
      entry ∈ table.update entries → entry ∈ table ∨ entry ∈ entries := by
    clear member
    induction entries with
    | nil => exact fun _ inTable => .inl inTable
    | cons first rest induction =>
        intro table inUpdate
        rcases induction (table.put first.1 first.2) inUpdate with inPut | inRest
        · rcases mem_put inPut with rfl | inTable
          · exact .inr List.mem_cons_self
          · exact .inl inTable
        · exact .inr (List.mem_cons_of_mem _ inRest)
  exact (kept [] member).resolve_left List.not_mem_nil

theorem ofEntries_of_nodup {entries : List (κ × α)}
    (distinct : (keys entries).Nodup) : ofEntries entries = entries := by
  -- A key that differs from all before it is put behind them.
  have kept : ∀ table : Table κ α, (keys (table ++ entries)).Nodup →
      table.update entries = table ++ entries := by
    clear distinct
    induction entries with
    | nil => exact fun table _ => (List.append_nil table).symm
    | cons entry rest induction =>
        intro table apart
        have absent : entry.1 ∉ table.keys := by
          intro member
          rw [keys, List.map_append, List.nodup_append] at apart
          exact apart.2.2 _ member _ List.mem_cons_self rfl
        rw [update_cons, put_of_not_mem absent, induction, List.append_assoc]
        · rfl
        · rw [List.append_assoc]
          exact apart
  exact kept [] distinct

theorem mem_keys_iff {key : κ} {table : Table κ α} :
    key ∈ table.keys ↔ ∃ value, table.get? key = some value := by
  rw [← Option.ne_none_iff_exists', ne_eq, get?_eq_none_iff, Decidable.not_not]

theorem contains_iff {key : κ} {table : Table κ α} :
    table.contains key = true ↔ key ∈ table.keys := by
  rw [contains, Option.isSome_iff_exists, mem_keys_iff]

theorem length_put (key : κ) (value : α) (table : Table κ α) :
    (table.put key value).length =
      if table.contains key then table.length else table.length + 1 := by
  rw [← length_keys, ← length_keys]
  by_cases member : key ∈ table.keys
  · rw [if_pos (contains_iff.mpr member), keys_put_of_mem member]
  · rw [if_neg (mt contains_iff.mp member), keys_put_of_not_mem member,
      List.length_append]
    rfl

section Selection

variable {β : Type w} {select : β → Option (κ × α)} {key : κ} {value : α}

theorem get?_toList_eq_some_iff {entry : Option (κ × α)} :
    get? key entry.toList = some value ↔ entry = some (key, value) := by
  cases entry with
  | none => simp [get?]
  | some entry =>
      obtain ⟨present, old⟩ := entry
      by_cases same : present = key <;> simp [get?, same]

/-- A key has the value of the last item that is selected under it. -/
theorem get?_ofEntries_filterMap_eq_some_iff {items : List β} :
    (ofEntries (items.filterMap select)).get? key = some value ↔
      ∃ before item after, items = before ++ item :: after ∧
        select item = some (key, value) ∧
        ∀ later ∈ after, ∀ other, select later ≠ some (key, other) := by
  rw [get?_ofEntries, ← List.filterMap_reverse, get?_filterMap,
    List.findSome?_eq_some_iff]
  constructor
  · rintro ⟨back, item, front, shape, selected, unselected⟩
    refine ⟨front.reverse, item, back.reverse, ?_,
      get?_toList_eq_some_iff.mp selected, ?_⟩
    · rw [← List.reverse_reverse items, shape]
      simp
    · intro later member other same
      have found := get?_toList_eq_some_iff.mpr same
      rw [unselected later (List.mem_reverse.mp member)] at found
      cases found
  · rintro ⟨before, item, after, shape, selected, unselected⟩
    refine ⟨after.reverse, item, before.reverse, ?_,
      get?_toList_eq_some_iff.mpr selected, ?_⟩
    · rw [shape]
      simp
    · intro later member
      apply Option.eq_none_iff_forall_ne_some.mpr
      intro other found
      exact unselected later (List.mem_reverse.mp member) other
        (get?_toList_eq_some_iff.mp found)

end Selection

end ClassTaint.Table
