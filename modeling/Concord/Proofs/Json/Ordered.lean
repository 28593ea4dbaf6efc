import Concord.Json.Shape
import Concord.Proofs.Json.Members
import Mathlib.Data.List.Nodup

/-!
# Values with their members in order

A record is written with its own members first, whatever their keys. `Value.ordered` is the value
that such a record is: in every object of it the members are sorted. A well formed value is ordered
already. A record that repeats some members of an object, and after them all the others, is the
object again.
-/

namespace Concord.Json

mutual

/-- The value with the members of every object sorted. -/
def Value.ordered : Value → Value
  | .array items => .array (orderedItems items)
  | .object members => .object (sortMembers (orderedMembers members))
  | value => value

/-- The items, each of them ordered. -/
def orderedItems : List Value → List Value
  | [] => []
  | value :: rest => value.ordered :: orderedItems rest

/-- The members, the value of each ordered, in the order they stand in. -/
def orderedMembers : List (String × Value) → Members
  | [] => []
  | (key, value) :: rest => (key, value.ordered) :: orderedMembers rest

end

/-- Items are ordered one by one. -/
theorem orderedItems_eq_map (items : List Value) : orderedItems items = items.map Value.ordered := by
  induction items with
  | nil => rfl
  | cons value rest ih => rw [orderedItems, ih, List.map_cons]

/-- The values of members are ordered one by one. -/
theorem orderedMembers_eq_map (members : Members) :
    orderedMembers members = members.map fun member => (member.1, member.2.ordered) := by
  induction members with
  | nil => rfl
  | cons member rest ih =>
    obtain ⟨key, value⟩ := member
    rw [orderedMembers, ih, List.map_cons]

mutual

/-- A well formed value is ordered. -/
theorem Value.WellFormed.ordered_eq : ∀ {value : Value}, value.WellFormed → value.ordered = value
  | .null, _ => rfl
  | .bool _, _ => rfl
  | .number _, _ => rfl
  | .string _, _ => rfl
  | .array items, form => by
    rw [Value.ordered, WellFormedItems.ordered_eq form]
  | .object members, form => by
    obtain ⟨increase, values⟩ := form
    rw [Value.ordered, WellFormedMembers.ordered_eq values,
      increase.sortMembers_eq (List.Perm.refl members)]

/-- Well formed items are ordered. -/
theorem WellFormedItems.ordered_eq : ∀ {items : List Value}, WellFormedItems items →
    orderedItems items = items
  | [], _ => rfl
  | _ :: _, ⟨first, others⟩ => by
    rw [orderedItems, first.ordered_eq, WellFormedItems.ordered_eq others]

/-- The values of well formed members are ordered. -/
theorem WellFormedMembers.ordered_eq : ∀ {members : List (String × Value)},
    WellFormedMembers members → orderedMembers members = members
  | [], _ => rfl
  | (_, _) :: _, ⟨first, others⟩ => by
    rw [orderedMembers, first.ordered_eq, WellFormedMembers.ordered_eq others]

end

/-- Some members of an object, and after them those with other keys, are all its members. -/
theorem perm_append_without {own members : Members} {keys : List String}
    (distinct : (members.map Prod.fst).Nodup) (ownDistinct : (own.map Prod.fst).Nodup)
    (names : ∀ key, key ∈ keys ↔ key ∈ own.map Prod.fst)
    (found : ∀ member ∈ own, find? member.1 members = some member.2) :
    (own ++ without keys members).Perm members := by
  let isOwn : String × Value → Bool := fun member => keys.contains member.1
  have chosen : own.Perm (members.filter isOwn) := by
    have here : own.Nodup := List.Nodup.of_map _ ownDistinct
    have there : (members.filter isOwn).Nodup := (List.Nodup.of_map _ distinct).filter _
    rw [List.perm_ext_iff_of_nodup here there]
    rintro ⟨key, value⟩
    rw [List.mem_filter, List.contains_iff_mem, names]
    constructor
    · intro inOwn
      exact ⟨mem_of_find?_eq_some (found _ inOwn), List.mem_map_of_mem inOwn⟩
    · rintro ⟨inMembers, named⟩
      obtain ⟨⟨name, other⟩, inOwn, rfl⟩ := List.mem_map.mp named
      have first := found _ inOwn
      rw [find?_eq_some_of_mem distinct inMembers] at first
      obtain rfl := Option.some.inj first
      exact inOwn
  calc
    (own ++ without keys members).Perm (members.filter isOwn ++ without keys members) :=
      chosen.append_right _
    _ |>.Perm members := List.filter_append_perm isOwn members

/-- A record whose own members stand in a well formed object, written with the other members of the
object after them, is the object. -/
theorem ordered_record {own members : Members} {keys : List String}
    (form : (Value.object members).WellFormed) (ownDistinct : (own.map Prod.fst).Nodup)
    (names : ∀ key, key ∈ keys ↔ key ∈ own.map Prod.fst)
    (found : ∀ member ∈ own, find? member.1 members = some member.2.ordered) :
    (Value.object (own ++ without keys members)).ordered = .object members := by
  obtain ⟨increase, values⟩ := form
  have others : orderedMembers (without keys members) = without keys members := by
    apply WellFormedMembers.ordered_eq
    rw [wellFormedMembers_iff] at values ⊢
    exact fun member there => values member (List.mem_of_mem_filter there)
  have split : orderedMembers (own ++ without keys members) =
      orderedMembers own ++ without keys members := by
    rw [orderedMembers_eq_map, List.map_append, ← orderedMembers_eq_map, ← orderedMembers_eq_map,
      others]
  have sameKeys : (orderedMembers own).map Prod.fst = own.map Prod.fst := by
    rw [orderedMembers_eq_map, List.map_map]
    rfl
  rw [Value.ordered, split]
  congr 1
  apply increase.sortMembers_eq
  apply perm_append_without increase.nodup
  · rwa [sameKeys]
  · rwa [sameKeys]
  · intro member there
    rw [orderedMembers_eq_map] at there
    obtain ⟨written, inOwn, rfl⟩ := List.mem_map.mp there
    exact found written inOwn

end Concord.Json
