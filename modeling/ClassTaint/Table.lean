namespace ClassTaint

/-! Tables in order of first insertion. A key that is put again keeps its place
and takes the new value. -/

abbrev Table (κ : Type u) (α : Type v) := List (κ × α)

namespace Table

variable {κ : Type u} {α : Type v} [BEq κ]

def put (key : κ) (value : α) : Table κ α → Table κ α
  | [] => [(key, value)]
  | (present, old) :: rest =>
      if present == key then
        (present, value) :: rest
      else
        (present, old) :: put key value rest

def get? (key : κ) : Table κ α → Option α
  | [] => none
  | (present, value) :: rest =>
      if present == key then some value else get? key rest

def contains (key : κ) (table : Table κ α) : Bool :=
  (table.get? key).isSome

/-- Puts the entries of the second table into the first, in order. -/
def update (table entries : Table κ α) : Table κ α :=
  entries.foldl (fun current entry => current.put entry.1 entry.2) table

def ofEntries (entries : List (κ × α)) : Table κ α :=
  update [] entries

def keys (table : Table κ α) : List κ :=
  table.map (·.1)

@[simp] theorem get?_put_self [LawfulBEq κ] (key : κ) (value : α)
    (table : Table κ α) : (table.put key value).get? key = some value := by
  induction table with
  | nil => simp [put, get?]
  | cons entry rest induction =>
      obtain ⟨present, old⟩ := entry
      by_cases same : present = key
      · simp [put, get?, same]
      · simp [put, get?, same, induction]

theorem get?_put_of_ne [LawfulBEq κ] {key other : κ} (different : other ≠ key)
    (value : α) (table : Table κ α) :
    (table.put key value).get? other = table.get? other := by
  induction table with
  | nil => simp [put, get?, different.symm]
  | cons entry rest induction =>
      obtain ⟨present, old⟩ := entry
      by_cases same : present = key
      · subst same
        simp [put, get?, different.symm]
      · simp [put, get?, same, induction]

theorem get?_eq_none_iff [LawfulBEq κ] {key : κ} {table : Table κ α} :
    table.get? key = none ↔ key ∉ table.keys := by
  induction table with
  | nil => simp [get?, keys]
  | cons entry rest induction =>
      obtain ⟨present, old⟩ := entry
      by_cases same : present = key
      · simp [get?, keys, same]
      · simpa [get?, keys, same, Ne.symm same] using induction

theorem keys_put_of_mem [LawfulBEq κ] {key : κ} {table : Table κ α}
    (member : key ∈ table.keys) (value : α) :
    (table.put key value).keys = table.keys := by
  induction table with
  | nil => simp [keys] at member
  | cons entry rest induction =>
      obtain ⟨present, old⟩ := entry
      by_cases same : present = key
      · simp [put, keys, same]
      · have inRest : key ∈ keys rest := by
          simpa [keys, Ne.symm same] using member
        simpa [put, keys, same] using induction inRest

theorem put_of_not_mem [LawfulBEq κ] {key : κ} {table : Table κ α}
    (absent : key ∉ table.keys) (value : α) :
    table.put key value = table ++ [(key, value)] := by
  induction table with
  | nil => rfl
  | cons entry rest induction =>
      obtain ⟨present, old⟩ := entry
      have different : present ≠ key := by
        intro same
        exact absent (by simp [keys, same])
      have notInRest : key ∉ keys rest := by
        intro member
        exact absent (by simpa [keys] using Or.inr member)
      simp [put, different, induction notInRest]

theorem nodup_keys_put [LawfulBEq κ] {table : Table κ α}
    (distinct : table.keys.Nodup) (key : κ) (value : α) :
    (table.put key value).keys.Nodup := by
  by_cases member : key ∈ table.keys
  · rw [keys_put_of_mem member]
    exact distinct
  · have extended : (table.put key value).keys = table.keys ++ [key] := by
      simp [put_of_not_mem member, keys]
    rw [extended, List.nodup_append]
    refine ⟨distinct, by simp, ?_⟩
    intro present inTable other inSingle same
    rw [List.mem_singleton.mp inSingle] at same
    exact member (same ▸ inTable)

/-- The entries put into an empty table leave each key in it once. -/
theorem nodup_keys_ofEntries [LawfulBEq κ] (entries : List (κ × α)) :
    (ofEntries entries).keys.Nodup := by
  have kept : ∀ (entries : List (κ × α)) (table : Table κ α),
      table.keys.Nodup → (table.update entries).keys.Nodup := by
    intro entries
    induction entries with
    | nil => exact fun _ distinct => distinct
    | cons entry rest induction =>
        intro table distinct
        exact induction _ (nodup_keys_put distinct entry.1 entry.2)
  exact kept entries [] List.nodup_nil

end Table

end ClassTaint
