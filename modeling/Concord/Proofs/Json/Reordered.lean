import Concord.Proofs.Json.Source

/-!
# Trees with members in another order

`Source.Reordered` relates trees that differ in nothing but the order of members, at any depth, of
objects with distinct keys. The members of an object with a key that occurs again keep their places,
because the last with a key counts. Such trees have the same value: only the members of objects have
to be put in order, and that gives the same members in the same order.
-/

namespace Concord.Json

/-- The second tree is the first with the members of some objects in another order. -/
inductive Source.Reordered : Source → Source → Prop
  | null : Reordered .null .null
  | bool (b : Bool) : Reordered (.bool b) (.bool b)
  | number (written : WrittenNumber) : Reordered (.number written) (.number written)
  | string (s : String) : Reordered (.string s) (.string s)
  | array {items others : List Source} (each : List.Forall₂ Reordered items others) :
    Reordered (.array items) (.array others)
  /-- The values are reordered in place, and then the members when their keys are distinct. -/
  | object {members others ordered : List (String × Source)}
    (keys : members.map Prod.fst = others.map Prod.fst)
    (values : List.Forall₂ Reordered (members.map Prod.snd) (others.map Prod.snd))
    (same : ordered = others ∨ (others.map Prod.fst).Nodup ∧ ordered.Perm others) :
    Reordered (.object members) (.object ordered)

/-- Members in another order have the same sorted values when their keys are distinct. -/
theorem sortMembers_memberValues_of_perm {others ordered : List (String × Source)}
    (same : ordered = others ∨ (others.map Prod.fst).Nodup ∧ ordered.Perm others) :
    sortMembers (memberValues others) = sortMembers (memberValues ordered) := by
  rcases same with rfl | ⟨distinct, same⟩
  · rfl
  · have keys : (memberValues others).map Prod.fst = others.map Prod.fst := by
      simp [memberValues_eq_map]
    refine sortMembers_eq_of_perm (keys ▸ distinct) ?_
    simp only [memberValues_eq_map]
    exact (same.map _).symm

mutual

/-- Trees that differ in the order of members have the same value. -/
theorem Source.Reordered.value_eq : ∀ {source other : Source}, source.Reordered other →
    source.value = other.value
  | .null, _, .null => rfl
  | .bool _, _, .bool _ => rfl
  | .number _, _, .number _ => rfl
  | .string _, _, .string _ => rfl
  | .array items, _, .array each => by
    rw [Source.value, Source.value, itemValues_eq_of_reordered items each]
  | .object members, _, .object keys values same => by
    rw [Source.value, Source.value, memberValues_eq_of_reordered members keys values,
      sortMembers_memberValues_of_perm same]

/-- Items that differ in the order of members have the same values. -/
theorem itemValues_eq_of_reordered : ∀ (items : List Source) {others : List Source},
    List.Forall₂ Source.Reordered items others → itemValues items = itemValues others
  | [], _, .nil => rfl
  | item :: rest, _, .cons first each => by
    rw [itemValues, itemValues, first.value_eq, itemValues_eq_of_reordered rest each]

/-- Members with the same keys, whose values differ in the order of members, have the same
values. -/
theorem memberValues_eq_of_reordered : ∀ (members : List (String × Source))
    {others : List (String × Source)}, members.map Prod.fst = others.map Prod.fst →
    List.Forall₂ Source.Reordered (members.map Prod.snd) (others.map Prod.snd) →
    memberValues members = memberValues others
  | [], [], _, _ => rfl
  | (key, item) :: rest, (name, other) :: more, keys, .cons first each => by
    obtain ⟨sameKey, sameKeys⟩ := List.cons.inj keys
    have sameValue : item.value = other.value := first.value_eq
    have sameRest := memberValues_eq_of_reordered rest sameKeys each
    have sameName : key = name := sameKey
    rw [memberValues, memberValues, sameName, sameValue, sameRest]

end

end Concord.Json
