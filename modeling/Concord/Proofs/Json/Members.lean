import Concord.Json.Value
import Mathlib.Data.List.Perm.Subperm

/-!
# Members of an object

The keys of an object strictly increase, so they are distinct, and looking up a key finds the value
of its only member. Two objects of one size have the same keys as soon as every key of one is a key
of the other. Sorting members brings them into that order: it keeps the last member with each key,
and all members when their keys are distinct.
-/

namespace Concord.Json

variable {α β : Type}

/-- Increasing keys are distinct. -/
theorem KeysIncrease.nodup {members : Members} (increase : KeysIncrease members) :
    (members.map Prod.fst).Nodup := by
  apply List.Pairwise.imp _ increase
  intro first second below same
  exact String.lt_irrefl _ (same ▸ below)

/-- A member that is found has the key and is one of the members. -/
theorem mem_of_find?_eq_some {key : String} {value : α} {members : List (String × α)}
    (found : find? key members = some value) : (key, value) ∈ members := by
  induction members with
  | nil => simp [find?] at found
  | cons member rest ih =>
    obtain ⟨name, other⟩ := member
    by_cases same : name = key
    · simp_all [find?]
    · exact List.mem_cons_of_mem _ (ih (by simpa [find?, same] using found))

/-- A key is found exactly when it is the key of a member. -/
theorem find?_eq_none_iff {key : String} {members : List (String × α)} :
    find? key members = none ↔ key ∉ members.map Prod.fst := by
  induction members with
  | nil => simp [find?]
  | cons member rest ih =>
    obtain ⟨name, other⟩ := member
    by_cases same : name = key
    · simp [find?, same]
    · simpa [find?, same, Ne.symm same] using ih

/-- With distinct keys, looking up a key finds the value of its member. -/
theorem find?_eq_some_of_mem {key : String} {value : α} {members : List (String × α)}
    (distinct : (members.map Prod.fst).Nodup) (member : (key, value) ∈ members) :
    find? key members = some value := by
  induction members with
  | nil => simp at member
  | cons first rest ih =>
    obtain ⟨name, other⟩ := first
    rw [List.map_cons, List.nodup_cons] at distinct
    rcases List.mem_cons.mp member with same | later
    · obtain ⟨rfl, rfl⟩ := Prod.mk.inj same
      simp [find?]
    · have differ : name ≠ key := by
        rintro rfl
        exact distinct.1 (List.mem_map.mpr ⟨_, later, rfl⟩)
      simpa [find?, differ] using ih distinct.2 later

/-- A key is looked up in the second list of members when the first has none with it. -/
theorem find?_append (key : String) (left right : List (String × α)) :
    find? key (left ++ right) = (find? key left).or (find? key right) := by
  induction left with
  | nil => rfl
  | cons member rest ih =>
    obtain ⟨name, value⟩ := member
    by_cases same : name = key
    · simp [find?, same]
    · simpa [find?, same] using ih

/-- Changing the values of members changes what is looked up. -/
theorem find?_map (key : String) (change : α → β) (members : List (String × α)) :
    find? key (members.map fun member => (member.1, change member.2)) =
      (find? key members).map change := by
  induction members with
  | nil => rfl
  | cons member rest ih =>
    obtain ⟨name, value⟩ := member
    by_cases same : name = key
    · simp [find?, same]
    · simpa [find?, same] using ih

/-- The key of an inserted member is found with its value, any other as before. -/
theorem find?_insertMember (wanted key : String) (value : Value) (members : Members) :
    find? wanted (insertMember key value members) =
      if key = wanted then some value else find? wanted members := by
  induction members with
  | nil => rfl
  | cons member rest ih =>
    obtain ⟨name, old⟩ := member
    rw [insertMember]
    by_cases hit : key = wanted
    · subst hit
      rw [if_pos rfl] at ih ⊢
      split_ifs with before same
      · simp [find?]
      · simp [find?]
      · simpa [find?, Ne.symm same] using ih
    · rw [if_neg hit] at ih ⊢
      split_ifs with before same
      · simp [find?, hit]
      · subst same
        simp [find?, hit]
      · by_cases head : name = wanted
        · simp [find?, head]
        · simpa [find?, head] using ih

/-- Inserting members one after the other: the last with a key is the one found. -/
theorem find?_foldl_insertMember (key : String) (members sorted : Members) :
    find? key (members.foldl (fun sorted member => insertMember member.1 member.2 sorted) sorted) =
      (find? key members.reverse).or (find? key sorted) := by
  induction members generalizing sorted with
  | nil => rfl
  | cons member rest ih =>
    obtain ⟨name, value⟩ := member
    rw [List.foldl_cons, ih, find?_insertMember, List.reverse_cons, find?_append, Option.or_assoc]
    congr 1
    by_cases same : name = key <;> simp [find?, same]

/-- Among sorted members a key is found with the value of its last member. -/
theorem find?_sortMembers (key : String) (members : Members) :
    find? key (sortMembers members) = find? key members.reverse := by
  rw [sortMembers, find?_foldl_insertMember]
  exact Option.or_none

/-- A key that inserting leaves in place. -/
theorem mem_insertMember {key : String} {value : Value} {members : Members}
    {member : String × Value} (there : member ∈ insertMember key value members) :
    member = (key, value) ∨ member ∈ members := by
  induction members with
  | nil => exact Or.inl (List.mem_singleton.mp there)
  | cons first rest ih =>
    obtain ⟨name, old⟩ := first
    rw [insertMember] at there
    split_ifs at there
    · exact List.mem_cons.mp there
    · exact (List.mem_cons.mp there).imp_right (List.mem_cons_of_mem _)
    · rcases List.mem_cons.mp there with same | later
      · exact Or.inr (same ▸ List.mem_cons_self)
      · exact (ih later).imp_right (List.mem_cons_of_mem _)

/-- Inserting a member keeps the keys increasing. -/
theorem KeysIncrease.insertMember {members : Members} (increase : KeysIncrease members)
    (key : String) (value : Value) : KeysIncrease (insertMember key value members) := by
  induction members with
  | nil => exact List.pairwise_singleton _ _
  | cons first rest ih =>
    obtain ⟨name, old⟩ := first
    obtain ⟨least, tail⟩ := List.pairwise_cons.mp increase
    rw [Json.insertMember]
    split_ifs with before same
    · refine List.pairwise_cons.mpr ⟨?_, increase⟩
      rintro other there
      rcases List.mem_cons.mp there with rfl | later
      · exact before
      · exact String.lt_trans before (least _ later)
    · exact same ▸ increase
    · refine List.pairwise_cons.mpr ⟨?_, ih tail⟩
      intro other there
      obtain ⟨member, present, rfl⟩ := List.mem_map.mp there
      have after : name < key := by
        by_contra notLess
        exact same (String.le_antisymm notLess before)
      rcases mem_insertMember present with rfl | later
      · exact after
      · exact least _ (List.mem_map_of_mem later)

/-- Sorted members have increasing keys. -/
theorem keysIncrease_sortMembers (members : Members) : KeysIncrease (sortMembers members) := by
  have sorted : ∀ start : Members, KeysIncrease start → KeysIncrease
      (members.foldl (fun sorted member => insertMember member.1 member.2 sorted) start) := by
    induction members with
    | nil => exact fun _ increase => increase
    | cons member rest ih => exact fun start increase => ih _ (increase.insertMember _ _)
  exact sorted [] List.Pairwise.nil

/-- Every sorted member is one of the members. -/
theorem mem_of_mem_sortMembers {members : Members} {member : String × Value}
    (there : member ∈ sortMembers members) : member ∈ members := by
  have found := find?_eq_some_of_mem (keysIncrease_sortMembers members).nodup there
  rw [find?_sortMembers] at found
  exact List.mem_reverse.mp (mem_of_find?_eq_some found)

/-- Inserting a member with a new key adds it. -/
theorem insertMember_perm {key : String} {members : Members} (value : Value)
    (new : key ∉ members.map Prod.fst) :
    (insertMember key value members).Perm ((key, value) :: members) := by
  induction members with
  | nil => exact List.Perm.refl _
  | cons first rest ih =>
    obtain ⟨name, old⟩ := first
    rw [List.map_cons, List.mem_cons, not_or] at new
    rw [insertMember, if_neg new.1]
    split_ifs
    · exact List.Perm.refl _
    · exact ((ih new.2).cons _).trans (List.Perm.swap _ _ _)

/-- Members with distinct keys are only put in order. -/
theorem sortMembers_perm {members : Members} (distinct : (members.map Prod.fst).Nodup) :
    (sortMembers members).Perm members := by
  have sorted : ∀ start : Members, (members.map Prod.fst).Disjoint (start.map Prod.fst) →
      (members.foldl (fun sorted member => insertMember member.1 member.2 sorted) start).Perm
        (members ++ start) := by
    induction members with
    | nil => exact fun _ _ => List.Perm.refl _
    | cons member rest ih =>
      obtain ⟨key, value⟩ := member
      rw [List.map_cons, List.nodup_cons] at distinct
      intro start apart
      rw [List.map_cons, List.disjoint_cons_left] at apart
      have added := insertMember_perm value apart.1
      have still : (rest.map Prod.fst).Disjoint ((insertMember key value start).map Prod.fst) := by
        intro name inRest inserted
        rcases List.mem_cons.mp ((added.map Prod.fst).subset inserted) with rfl | old
        · exact distinct.1 inRest
        · exact apart.2 inRest old
      calc
        (rest.foldl _ (insertMember key value start)).Perm (rest ++ insertMember key value start) :=
          ih distinct.2 _ still
        _ |>.Perm (rest ++ (key, value) :: start) := added.append_left rest
        _ |>.Perm ((key, value) :: (rest ++ start)) := List.perm_middle
  have all := sorted [] (List.disjoint_nil_right _)
  rwa [List.append_nil] at all

/-- Members with increasing keys are determined by which members they are. -/
theorem KeysIncrease.eq_of_perm {left right : Members} (leftKeys : KeysIncrease left)
    (rightKeys : KeysIncrease right) (same : left.Perm right) : left = right := by
  have leftOrder := List.pairwise_map.mp leftKeys
  have rightOrder := List.pairwise_map.mp rightKeys
  refine same.eq_of_pairwise ?_ leftOrder rightOrder
  intro first second _ _ below above
  exact absurd (String.lt_trans below above) (String.lt_irrefl _)

/-- Sorting does not depend on the order of members with distinct keys. -/
theorem sortMembers_eq_of_perm {left right : Members} (distinct : (left.map Prod.fst).Nodup)
    (same : left.Perm right) : sortMembers left = sortMembers right := by
  have rightDistinct : (right.map Prod.fst).Nodup := (same.map Prod.fst).nodup_iff.mp distinct
  apply (keysIncrease_sortMembers left).eq_of_perm (keysIncrease_sortMembers right)
  exact (sortMembers_perm distinct).trans (same.trans (sortMembers_perm rightDistinct).symm)

/-- Members with distinct keys, sorted, are those of them that have increasing keys. -/
theorem KeysIncrease.sortMembers_eq {sorted members : Members} (increase : KeysIncrease sorted)
    (same : members.Perm sorted) : sortMembers members = sorted := by
  have distinct : (members.map Prod.fst).Nodup := (same.map Prod.fst).nodup_iff.mpr increase.nodup
  exact (keysIncrease_sortMembers members).eq_of_perm increase
    ((sortMembers_perm distinct).trans same)

/-- When two objects of one size have distinct keys and every key of the first is a key of the
second, every key of the second is a key of the first. -/
theorem keys_subset_of_length_eq {left right : Members}
    (distinct : (left.map Prod.fst).Nodup) (size : left.length = right.length)
    (subset : left.map Prod.fst ⊆ right.map Prod.fst) :
    right.map Prod.fst ⊆ left.map Prod.fst := by
  have fill := (distinct.subperm subset).perm_of_length_le (by simp [size])
  exact fill.symm.subset

/-- Well formed items are items that are well formed. -/
theorem wellFormedItems_iff {items : List Value} :
    WellFormedItems items ↔ ∀ item ∈ items, item.WellFormed := by
  induction items with
  | nil => simp [WellFormedItems]
  | cons item rest ih => simp [WellFormedItems, ih]

/-- The values of well formed members are well formed. -/
theorem wellFormedMembers_iff {members : Members} :
    WellFormedMembers members ↔ ∀ member ∈ members, member.2.WellFormed := by
  induction members with
  | nil => simp [WellFormedMembers]
  | cons member rest ih => simp [WellFormedMembers, ih]

end Concord.Json
