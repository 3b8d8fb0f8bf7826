import ForestQuery.Json.Basic

/-!
# Tidy documents

A document is tidy if the members of each of its objects stand in the order of their keys, no key
twice. `Json.isTidy_tidy` says that `Json.tidy` gives a tidy document, and `Json.tidy_eq_self` that
it leaves a tidy one alone; so a tidy document is the only one among those that it is equal to but
for the order of members.
-/

namespace ForestQuery.Json

/-- The keys of members stand in order, none twice. -/
def InOrder (members : List (String × Json)) : Prop :=
  members.Pairwise (·.1 < ·.1)

mutual

/-- The members of every object stand in order, no key twice. -/
def IsTidy : Json → Prop
  | array items => AllTidy items
  | object members => InOrder members ∧ MembersTidy members
  | _ => True

/-- Every item is tidy. -/
def AllTidy : List Json → Prop
  | [] => True
  | item :: rest => item.IsTidy ∧ AllTidy rest

/-- The value of every member is tidy. -/
def MembersTidy : List (String × Json) → Prop
  | [] => True
  | (_, value) :: rest => value.IsTidy ∧ MembersTidy rest

end

/-- Members that were put in have the new member or were there before. -/
theorem mem_of_mem_put {key : String} {value : Json} {members : List (String × Json)}
    {m : String × Json} (h : m ∈ put key value members) : m = (key, value) ∨ m ∈ members := by
  fun_induction put key value members with
  | case1 => exact Or.inl (List.mem_singleton.1 h)
  | case2 v rest =>
    rcases List.mem_cons.1 h with h | h
    · exact Or.inl h
    · exact Or.inr (List.mem_cons_of_mem _ h)
  | case3 => exact List.mem_cons.1 h
  | case4 k v rest hne hlt ih =>
    rcases List.mem_cons.1 h with h | h
    · exact Or.inr (h ▸ List.mem_cons_self)
    · rcases ih h with h | h
      · exact Or.inl h
      · exact Or.inr (List.mem_cons_of_mem _ h)

/-- Putting a member keeps the order of keys. -/
theorem InOrder.put {members : List (String × Json)} (h : InOrder members) (key : String)
    (value : Json) : InOrder (put key value members) := by
  fun_induction Json.put key value members with
  | case1 => exact List.pairwise_singleton _ _
  | case2 v rest =>
    obtain ⟨hhead, htail⟩ := List.pairwise_cons.1 h
    exact List.pairwise_cons.2 ⟨hhead, htail⟩
  | case3 k v rest hne hlt =>
    obtain ⟨hhead, htail⟩ := List.pairwise_cons.1 h
    refine List.pairwise_cons.2 ⟨fun m hm => ?_, h⟩
    rcases List.mem_cons.1 hm with rfl | hm
    · exact hlt
    · exact String.lt_trans hlt (hhead m hm)
  | case4 k v rest hne hlt ih =>
    obtain ⟨hhead, htail⟩ := List.pairwise_cons.1 h
    refine List.pairwise_cons.2 ⟨fun m hm => ?_, ih htail⟩
    rcases mem_of_mem_put hm with rfl | hm
    · exact Decidable.byContradiction fun hge =>
        hne (String.le_antisymm (String.not_lt.1 hge) (String.not_lt.1 hlt))
    · exact hhead m hm

/-- A member whose key comes after all others is put at the end. -/
theorem put_eq_append {key : String} {members : List (String × Json)}
    (h : ∀ m ∈ members, m.1 < key) (value : Json) :
    put key value members = members ++ [(key, value)] := by
  induction members with
  | nil => rfl
  | cons m rest ih =>
    obtain ⟨hm, hrest⟩ := List.forall_mem_cons.1 h
    have hne : key ≠ m.1 := fun heq => String.lt_irrefl key (heq ▸ hm)
    have hlt : ¬ key < m.1 := fun hlt => String.lt_irrefl key (String.lt_trans hlt hm)
    rw [put, if_neg hne, if_neg hlt, ih hrest, List.cons_append]

/-- Members put in one after the other stand in order. -/
theorem inOrder_foldl_put (members done : List (String × Json)) (h : InOrder done) :
    InOrder (members.foldl (fun done member => put member.1 member.2 done) done) := by
  induction members generalizing done with
  | nil => exact h
  | cons m rest ih => exact ih _ (h.put m.1 m.2)

/-- Members that already stand in order stay as they are when they are put in one by one. -/
theorem foldl_put_of_inOrder {members done : List (String × Json)}
    (h : InOrder (done ++ members)) :
    members.foldl (fun done member => put member.1 member.2 done) done = done ++ members := by
  induction members generalizing done with
  | nil => simp
  | cons m rest ih =>
    have hlast : ∀ d ∈ done, d.1 < m.1 := fun d hd =>
      (List.pairwise_append.1 h).2.2 d hd m List.mem_cons_self
    rw [List.foldl_cons, put_eq_append hlast, ih (by simpa using h), List.append_assoc,
      List.singleton_append]

/-- Values with a property that are put in keep it. -/
theorem membersTidy_put {members : List (String × Json)} (h : MembersTidy members) (key : String)
    {value : Json} (hv : value.IsTidy) : MembersTidy (put key value members) := by
  fun_induction put key value members with
  | case1 => exact ⟨hv, trivial⟩
  | case2 v rest => exact ⟨hv, h.2⟩
  | case3 k v rest => exact ⟨hv, h⟩
  | case4 k v rest hne hlt ih => exact ⟨h.1, ih h.2⟩

theorem membersTidy_foldl_put {members done : List (String × Json)} (h : MembersTidy members)
    (hdone : MembersTidy done) :
    MembersTidy (members.foldl (fun done member => put member.1 member.2 done) done) := by
  induction members generalizing done with
  | nil => exact hdone
  | cons m rest ih => exact ih h.2 (membersTidy_put hdone m.1 h.1)

mutual

/-- Bringing a value in order makes it tidy. -/
theorem isTidy_tidy : (value : Json) → value.tidy.IsTidy
  | .null | .bool _ | .number _ | .string _ => trivial
  | .array items => allTidy_tidyItems items
  | .object members =>
    ⟨inOrder_foldl_put _ _ List.Pairwise.nil,
      membersTidy_foldl_put (membersTidy_tidyMembers members) trivial⟩

/-- Bringing items in order makes each of them tidy. -/
theorem allTidy_tidyItems : (items : List Json) → AllTidy (tidyItems items)
  | [] => trivial
  | item :: rest => ⟨isTidy_tidy item, allTidy_tidyItems rest⟩

/-- Bringing the values of members in order makes each of them tidy. -/
theorem membersTidy_tidyMembers : (members : List (String × Json)) →
    MembersTidy (tidyMembers members)
  | [] => trivial
  | (_, value) :: rest => ⟨isTidy_tidy value, membersTidy_tidyMembers rest⟩

end

mutual

/-- A tidy value stays as it is. -/
theorem tidy_eq_self : {value : Json} → value.IsTidy → value.tidy = value
  | .null, _ | .bool _, _ | .number _, _ | .string _, _ => rfl
  | .array items, h => by rw [tidy, tidyItems_eq_self h]
  | .object members, h => by
    rw [tidy, tidyMembers_eq_self h.2, ofMembers, foldl_put_of_inOrder (by simpa using h.1),
      List.nil_append]

/-- Tidy items stay as they are. -/
theorem tidyItems_eq_self : {items : List Json} → AllTidy items → tidyItems items = items
  | [], _ => rfl
  | item :: rest, h => by rw [tidyItems, tidy_eq_self h.1, tidyItems_eq_self h.2]

/-- Members with tidy values stay as they are. -/
theorem tidyMembers_eq_self : {members : List (String × Json)} → MembersTidy members →
    tidyMembers members = members
  | [], _ => rfl
  | (key, value) :: rest, h => by rw [tidyMembers, tidy_eq_self h.1, tidyMembers_eq_self h.2]

end

end ForestQuery.Json
