import HandlerBundle.Json.Basic
import Mathlib.Data.List.Basic
import Mathlib.Data.List.Nodup

/-!
# Members of an object

A member that is put into an object keeps the place of the one of its name, or comes last if there
is none. So the names stay different from each other, and of members that are put one after the
other the last one of a name counts.

## Main results

* `Json.find?_foldl_put` — the member of a name after several ones have been put.
* `Json.nodup_foldl_put`, `Json.mem_foldl_put_iff` — the names after that.
-/

namespace HandlerBundle.Json

variable {α : Type} {members others : List (String × α)} {name key : String} {value : α}

/-! ### One member -/

theorem any_name_iff : (members.any fun m => m.1 == key) = true ↔ key ∈ members.map Prod.fst := by
  simp only [List.any_eq_true, beq_iff_eq, List.mem_map]

/-- A member of a name that is there takes the place of the old one, and else it comes last. -/
theorem map_fst_put : (put members key value).map Prod.fst =
    if key ∈ members.map Prod.fst then members.map Prod.fst
    else members.map Prod.fst ++ [key] := by
  rw [put]
  by_cases hmem : key ∈ members.map Prod.fst
  · rw [if_pos (any_name_iff.mpr hmem), if_pos hmem, List.map_map]
    refine List.map_congr_left fun m _ => ?_
    by_cases hm : m.1 = key <;> simp [hm]
  · rw [if_neg (mt any_name_iff.mp hmem), if_neg hmem, List.map_append]
    rfl

/-- Replacing a member leaves those of other names as they are. -/
theorem find?_replaced_of_ne (hne : key ≠ name) :
    (members.map fun m => if m.1 == key then (key, value) else m).find? (fun m => m.1 == name) =
      members.find? fun m => m.1 == name := by
  have hother : (key == name) = false := beq_eq_false_iff_ne.mpr hne
  induction members with
  | nil => rfl
  | cons m members ih =>
    rw [List.map_cons, List.find?_cons, List.find?_cons, ih]
    by_cases hkey : m.1 = key
    · simp [hkey, hother]
    · simp [hkey]

theorem find?_replaced_self (hmem : key ∈ members.map Prod.fst) :
    (members.map fun m => if m.1 == key then (key, value) else m).find? (fun m => m.1 == key) =
      some (key, value) := by
  induction members with
  | nil => exact absurd hmem List.not_mem_nil
  | cons m members ih =>
    rw [List.map_cons]
    by_cases hkey : m.1 = key
    · rw [if_pos (beq_iff_eq.mpr hkey)]
      exact List.find?_cons_of_pos (beq_self_eq_true key)
    · rw [if_neg (mt eq_of_beq hkey), List.find?_cons_of_neg (by simpa using hkey),
        ih (List.mem_of_ne_of_mem (Ne.symm hkey) hmem)]

/-- A member that has been put is found, and those of other names are as they were. -/
theorem find?_put : (put members key value).find? (fun m => m.1 == name) =
    if key = name then some (name, value) else members.find? fun m => m.1 == name := by
  rw [put]
  split
  next hany =>
    split
    next hname =>
      subst hname
      exact find?_replaced_self (any_name_iff.mp hany)
    next hname => exact find?_replaced_of_ne hname
  next hany =>
    rw [List.find?_append]
    split
    next hname =>
      subst hname
      have hnone : members.find? (fun m => m.1 == key) = none :=
        List.find?_eq_none.mpr fun m hm hkey => hany (List.any_eq_true.mpr ⟨m, hm, hkey⟩)
      rw [hnone, Option.none_or]
      exact List.find?_cons_of_pos (beq_self_eq_true key)
    next hname =>
      rw [List.find?_cons_of_neg (by simpa using hname), List.find?_nil, Option.or_none]

theorem mem_of_mem_put {m : String × α} (hm : m ∈ put members key value) :
    m = (key, value) ∨ m ∈ members := by
  rw [put] at hm
  split at hm
  · obtain ⟨m', hm', rfl⟩ := List.mem_map.mp hm
    split
    · exact .inl rfl
    · exact .inr hm'
  · rw [List.mem_append, List.mem_singleton] at hm
    exact hm.symm

/-! ### Several members -/

/-- **Of members that are put one after the other the last one of a name counts.** -/
theorem find?_foldl_put : (others.foldl (fun done m => put done m.1 m.2) members).find?
      (fun m => m.1 == name) =
    (others.reverse.find? fun m => m.1 == name).or (members.find? fun m => m.1 == name) := by
  induction others generalizing members with
  | nil => rfl
  | cons m others ih =>
    rw [List.foldl_cons, ih, find?_put, List.reverse_cons, List.find?_append, Option.or_assoc]
    refine congrArg _ ?_
    by_cases hname : m.1 = name
    · subst hname
      simp
    · simp [hname]

/-- Members of other names leave the one of a name as it is. -/
theorem find?_foldl_put_of_ne (hne : ∀ m ∈ others, m.1 ≠ name) :
    (others.foldl (fun done m => put done m.1 m.2) members).find? (fun m => m.1 == name) =
      members.find? fun m => m.1 == name := by
  have hnone : (others.reverse.find? fun m => m.1 == name) = none :=
    List.find?_eq_none.mpr fun m hm hname => hne m (List.mem_reverse.mp hm) (eq_of_beq hname)
  rw [find?_foldl_put, hnone, Option.none_or]

theorem mem_foldl_put_iff :
    name ∈ (others.foldl (fun done m => put done m.1 m.2) members).map Prod.fst ↔
      name ∈ members.map Prod.fst ∨ name ∈ others.map Prod.fst := by
  induction others generalizing members with
  | nil => simp
  | cons m others ih =>
    rw [List.foldl_cons, ih, map_fst_put, List.map_cons, List.mem_cons, or_left_comm, ← or_assoc]
    refine or_congr_left ?_
    split
    next hmem => exact ⟨.inr, Or.rec (fun h => h ▸ hmem) id⟩
    next => rw [List.mem_append, List.mem_singleton, or_comm]

/-- Every member has been there or has been put. -/
theorem mem_of_mem_foldl_put {m : String × α}
    (hm : m ∈ others.foldl (fun done m => put done m.1 m.2) members) :
    m ∈ members ∨ m ∈ others := by
  induction others generalizing members with
  | nil => exact .inl hm
  | cons o others ih =>
    rcases ih hm with hm | hm
    · rcases mem_of_mem_put hm with rfl | hm
      · exact .inr List.mem_cons_self
      · exact .inl hm
    · exact .inr (List.mem_cons_of_mem _ hm)

/-- The names stay different from each other. -/
theorem nodup_foldl_put (hdistinct : (members.map Prod.fst).Nodup) :
    ((others.foldl (fun done m => put done m.1 m.2) members).map Prod.fst).Nodup := by
  induction others generalizing members with
  | nil => exact hdistinct
  | cons m others ih =>
    refine ih ?_
    rw [map_fst_put]
    split
    next => exact hdistinct
    next hmem => exact List.nodup_append_comm.mp (List.nodup_cons.mpr ⟨hmem, hdistinct⟩)

/-- If the names are different from each other, every member is found under its name. -/
theorem find?_eq_some_of_mem (hdistinct : (members.map Prod.fst).Nodup)
    (hmem : (name, value) ∈ members) :
    members.find? (fun m => m.1 == name) = some (name, value) := by
  induction members with
  | nil => exact absurd hmem List.not_mem_nil
  | cons m members ih =>
    rw [List.map_cons, List.nodup_cons] at hdistinct
    rcases List.mem_cons.mp hmem with rfl | hmem
    · exact List.find?_cons_of_pos (beq_self_eq_true name)
    · have hne : m.1 ≠ name := fun h => hdistinct.1 (h ▸ List.mem_map_of_mem hmem)
      rw [List.find?_cons_of_neg (by simpa using hne), ih hdistinct.2 hmem]

end HandlerBundle.Json
