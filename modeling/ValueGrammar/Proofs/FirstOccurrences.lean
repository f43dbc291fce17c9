/-! Lists without repetitions. `List.eraseDups` keeps every member where it comes
first, so repetitions can be erased from the parts of a list before they are
erased from the whole. -/
namespace ValueGrammar.FirstOccurrences

variable {α : Type} [BEq α] [LawfulBEq α] {members : List α} {last : α}

/-- Members can be left out before or after repetitions are erased. -/
theorem erase_dups_filter (p : α → Bool) (members : List α) :
    (members.filter p).eraseDups = members.eraseDups.filter p := by
  match members with
  | [] => rfl
  | first :: rest =>
    have smaller : (rest.filter fun other => !other == first).length < rest.length + 1 :=
      Nat.lt_succ_of_le (List.length_filter_le _ rest)
    have others := erase_dups_filter p (rest.filter fun other => !other == first)
    rw [List.eraseDups_cons]
    by_cases kept : p first = true
    · rw [List.filter_cons_of_pos kept, List.filter_cons_of_pos kept, List.eraseDups_cons,
        ← others, List.filter_filter, List.filter_filter]
      simp only [Bool.and_comm]
    · rw [List.filter_cons_of_neg kept, List.filter_cons_of_neg kept, ← others,
        List.filter_filter]
      congr 2
      funext other
      by_cases same : other = first
      · simp [same, kept]
      · simp [same]
termination_by members.length

theorem erase_dups_twice (members : List α) : members.eraseDups.eraseDups = members.eraseDups := by
  match members with
  | [] => rfl
  | first :: rest =>
    have smaller : (rest.filter fun other => !other == first).length < rest.length + 1 :=
      Nat.lt_succ_of_le (List.length_filter_le _ rest)
    have others := erase_dups_twice (rest.filter fun other => !other == first)
    rw [List.eraseDups_cons, List.eraseDups_cons, ← erase_dups_filter, List.filter_filter]
    simp only [Bool.and_self]
    rw [others]
termination_by members.length

theorem erase_dups_nodup (members : List α) : members.eraseDups.Nodup := by
  match members with
  | [] => exact List.nodup_nil
  | first :: rest =>
    have smaller : (rest.filter fun other => !other == first).length < rest.length + 1 :=
      Nat.lt_succ_of_le (List.length_filter_le _ rest)
    have others := erase_dups_nodup (rest.filter fun other => !other == first)
    rw [List.eraseDups_cons]
    exact List.nodup_cons.mpr ⟨by simp, others⟩
termination_by members.length

/-- Erasing the repetitions of the second part first changes nothing. -/
theorem erase_dups_append_erased (first second : List α) :
    (first ++ second.eraseDups).eraseDups = (first ++ second).eraseDups := by
  rw [List.eraseDups_append, List.eraseDups_append, List.removeAll, List.removeAll,
    erase_dups_filter, erase_dups_filter, erase_dups_twice]

/-- Repetitions that a map makes are erased with those that were there before, or
after them. -/
theorem erase_dups_map {β : Type} [BEq β] [LawfulBEq β] (f : α → β) (members : List α) :
    (members.eraseDups.map f).eraseDups = (members.map f).eraseDups := by
  match members with
  | [] => rfl
  | first :: rest =>
    have smaller : (rest.filter fun other => !other == first).length < rest.length + 1 :=
      Nat.lt_succ_of_le (List.length_filter_le _ rest)
    have others := erase_dups_map f (rest.filter fun other => !other == first)
    rw [List.eraseDups_cons, List.map_cons, List.eraseDups_cons, List.map_cons,
      List.eraseDups_cons, erase_dups_filter, others, ← erase_dups_filter, List.filter_map,
      List.filter_map, List.filter_filter]
    -- Whatever equals the first member is mapped to what the first member is mapped to.
    congr 4
    funext other
    by_cases same : other = first
    · simp [same]
    · simp [same]
termination_by members.length

/-- A member at the end stays only if it did not come before. -/
theorem erase_dups_known (known : last ∈ members) :
    (members ++ [last]).eraseDups = members.eraseDups := by
  rw [List.eraseDups_append]
  simp [List.removeAll, known]

theorem erase_dups_new (new : last ∉ members) :
    (members ++ [last]).eraseDups = members.eraseDups ++ [last] := by
  rw [List.eraseDups_append]
  simp [List.removeAll, new, List.eraseDups_cons]

end ValueGrammar.FirstOccurrences
