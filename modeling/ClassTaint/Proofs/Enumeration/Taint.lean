import ClassTaint.Proofs.Enumeration.Naming
import ClassTaint.TaintState

namespace ClassTaint.TaintState

/-! The names of the taint states. There are no aliases among them, so a state has one
name and is found under it. -/

theorem hasName_of_mem {name : String} (member : name ∈ names) :
    enumeration.HasName name :=
  ⟨⟨name, .text name⟩, List.mem_map.mpr ⟨name, member, rfl⟩, rfl⟩

theorem value_of_mem {member : Member} (present : member ∈ enumeration.members) :
    member.value = .text member.name := by
  obtain ⟨name, -, rfl⟩ := List.mem_map.mp present
  rfl

/-- No two names of taint states stand for one. -/
theorem name_of_denotes {name : String} {state : State}
    (denotes : enumeration.Denotes name state) : state.member.name = name := by
  obtain ⟨before, named, after, whole, rfl, -, value⟩ := denotes.value
  have inside : state.member ∈ enumeration.members := by
    rw [← denotes.enumeration]
    exact List.mem_of_find?_eq_some state.canonical
  have listed : named ∈ enumeration.members := by
    rw [whole]
    exact List.mem_append_right _ List.mem_cons_self
  rw [value_of_mem inside, value_of_mem listed] at value
  exact (MemberValue.text.inj value).symm

theorem eq_of_denotes {name other : String} {state : State}
    (first : enumeration.Denotes name state)
    (second : enumeration.Denotes other state) : name = other := by
  rw [← name_of_denotes first, name_of_denotes second]

theorem denotes_null : enumeration.Denotes "NULL" null :=
  State.denotes_of_named? rfl

end ClassTaint.TaintState
