/-!
Lists of keyed values in the order of their keys. Keys are ordered by code point, which is also
the order of their bytes, and no key stands twice.
-/

namespace ChartLint.Keyed

variable {α : Type}

def put (key : String) (value : α) : List (String × α) → List (String × α)
  | [] => [(key, value)]
  | (other, kept) :: rest =>
    if key = other then (key, value) :: rest
    else if key < other then (key, value) :: (other, kept) :: rest
    else (other, kept) :: put key value rest

def ofList (members : List (String × α)) : List (String × α) :=
  members.foldl (fun ordered member => put member.1 member.2 ordered) []

theorem lookup_cons_of_ne {key other : String} (different : key ≠ other) (value : α)
    (rest : List (String × α)) : ((other, value) :: rest).lookup key = rest.lookup key := by
  rw [List.lookup_cons, beq_eq_false_iff_ne.mpr different]

theorem lookup_eq_none {key : String} {members : List (String × α)}
    (absent : key ∉ members.map Prod.fst) : members.lookup key = none := by
  rw [List.lookup_eq_none_iff]
  intro member inside
  exact bne_iff_ne.mpr fun same => absent (same ▸ List.mem_map_of_mem inside)

theorem lookup_put_self (key : String) (value : α) (members : List (String × α)) :
    (put key value members).lookup key = some value := by
  induction members with
  | nil => simp only [put, List.lookup_cons_self]
  | cons member rest ih =>
    simp only [put]
    split
    · simp only [List.lookup_cons_self]
    · split
      · simp only [List.lookup_cons_self]
      next different _ =>
        rw [lookup_cons_of_ne different]
        exact ih

theorem lookup_put_of_ne {key other : String} (different : key ≠ other) (value : α)
    (members : List (String × α)) :
    (put other value members).lookup key = members.lookup key := by
  induction members with
  | nil => exact lookup_cons_of_ne different value []
  | cons member rest ih =>
    obtain ⟨name, kept⟩ := member
    simp only [put]
    split
    · next same =>
      subst same
      rw [lookup_cons_of_ne different, lookup_cons_of_ne different]
    · split
      · exact lookup_cons_of_ne different value _
      · rw [List.lookup_cons, List.lookup_cons, ih]

theorem put_put (key : String) (value kept : α) (members : List (String × α)) :
    put key value (put key kept members) = put key value members := by
  induction members with
  | nil => simp only [put, if_true]
  | cons member rest ih =>
    obtain ⟨name, first⟩ := member
    by_cases same : key = name
    · simp only [put, if_pos same, if_true]
    · by_cases before : key < name
      · simp only [put, if_neg same, if_pos before, if_true]
      · simp only [put, if_neg same, if_neg before, ih]

/-- The order in which two keys are put in does not count. -/
theorem put_comm {key other : String} (different : key ≠ other) (value kept : α)
    (members : List (String × α)) :
    put key value (put other kept members) = put other kept (put key value members) := by
  -- Where the two go is decided by how they compare with each other and with the first key.
  induction members with
  | nil => grind [put]
  | cons member rest ih => grind [put]

theorem eq_or_mem_of_mem_put {key : String} {value : α} {members : List (String × α)}
    {member : String × α} (inside : member ∈ put key value members) :
    member = (key, value) ∨ member ∈ members := by
  induction members with
  | nil => exact .inl (List.mem_singleton.mp inside)
  | cons first rest ih =>
    simp only [put] at inside
    split at inside
    · rcases List.mem_cons.mp inside with same | later
      · exact .inl same
      · exact .inr (List.mem_cons_of_mem _ later)
    · split at inside
      · exact List.mem_cons.mp inside
      · rcases List.mem_cons.mp inside with same | later
        · exact .inr (List.mem_cons.mpr (.inl same))
        · exact (ih later).imp_right (List.mem_cons_of_mem _)

/-- Every key stands before those that are greater, and so none stands twice. -/
def Ordered (members : List (String × α)) : Prop :=
  members.Pairwise fun first second => first.1 < second.1

theorem Ordered.nodup {members : List (String × α)} (ordered : Ordered members) :
    (members.map Prod.fst).Nodup := by
  rw [List.nodup_iff_pairwise_ne, List.pairwise_map]
  apply ordered.imp
  intro first second before same
  rw [same] at before
  exact String.lt_irrefl _ before

theorem put_ordered (key : String) (value : α) {members : List (String × α)}
    (ordered : Ordered members) : Ordered (put key value members) := by
  induction members with
  | nil => exact List.pairwise_singleton ..
  | cons first rest ih =>
    obtain ⟨least, later⟩ := List.pairwise_cons.mp ordered
    simp only [put]
    split
    · next same =>
      rw [same]
      exact List.pairwise_cons.mpr ⟨least, later⟩
    · next different =>
      split
      · next before =>
        refine List.pairwise_cons.mpr ⟨?_, ordered⟩
        intro member inside
        rcases List.mem_cons.mp inside with same | after
        · rw [same]
          exact before
        · exact String.lt_trans before (least member after)
      · next after =>
        refine List.pairwise_cons.mpr ⟨?_, ih later⟩
        intro member inside
        rcases eq_or_mem_of_mem_put inside with same | old
        · -- Of two keys that differ, the one that is not the lesser is the greater.
          rw [same]
          apply Decidable.byContradiction
          intro before
          exact different (String.le_antisymm (String.not_lt.mp before) (String.not_lt.mp after))
        · exact least member old

theorem ofList_ordered (members : List (String × α)) : Ordered (ofList members) := by
  have kept (start : List (String × α)) (ordered : Ordered start) :
      Ordered (members.foldl (fun ordered member => put member.1 member.2 ordered) start) := by
    induction members generalizing start with
    | nil => exact ordered
    | cons member rest ih => exact ih _ (put_ordered _ _ ordered)
  exact kept [] List.Pairwise.nil

theorem put_perm {key : String} (value : α) {members : List (String × α)}
    (absent : key ∉ members.map Prod.fst) : (put key value members).Perm ((key, value) :: members) := by
  induction members with
  | nil => exact .refl _
  | cons first rest ih =>
    obtain ⟨different, later⟩ := List.ne_and_not_mem_of_not_mem_cons absent
    rw [put, if_neg different]
    split
    · exact .refl _
    · exact ((ih later).cons first).trans (.swap _ _ rest)

/-- Keyed values are put in order without a loss, if no two have one key. -/
theorem ofList_perm_self {members : List (String × α)}
    (distinct : (members.map Prod.fst).Nodup) : (ofList members).Perm members := by
  have added (start : List (String × α)) (apart : ((start ++ members).map Prod.fst).Nodup) :
      (members.foldl (fun ordered member => put member.1 member.2 ordered) start).Perm
        (start ++ members) := by
    induction members generalizing start with
    | nil =>
      rw [List.append_nil]
      exact .refl _
    | cons member rest ih =>
      have absent : member.1 ∉ start.map Prod.fst := by
        rw [List.map_append] at apart
        intro inside
        exact (List.nodup_append.mp apart).2.2 _ inside _ List.mem_cons_self rfl
      have moved : (put member.1 member.2 start ++ rest).Perm (start ++ member :: rest) :=
        ((put_perm member.2 absent).append_right rest).trans List.perm_middle.symm
      have kept := (moved.map Prod.fst).nodup_iff.mpr apart
      exact (ih (List.nodup_cons.mp distinct).2 _ kept).trans moved
  exact added [] distinct

/-- In whatever order keyed values come, there is one order that they are put in. -/
theorem ofList_eq {members ordered : List (String × α)} (inOrder : Ordered ordered)
    (same : members.Perm ordered) : ofList members = ordered := by
  have distinct : (members.map Prod.fst).Nodup := (same.map Prod.fst).nodup_iff.mpr inOrder.nodup
  apply List.Perm.eq_of_pairwise _ (ofList_ordered members) inOrder
  · exact (ofList_perm_self distinct).trans same
  · intro one other _ _ before after
    exact absurd (String.lt_trans before after) (String.lt_irrefl _)

end ChartLint.Keyed
