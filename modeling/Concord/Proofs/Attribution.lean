import Concord.Implementation
import Mathlib.Data.List.Infix

/-!
# Which implementation a method belongs to

Two prefixes overlap exactly when some method begins with both of them. The prefixes of a set do not
overlap. So neither of them is empty, and no method belongs to both implementations.
-/

namespace Concord

/-- Prefixes overlap exactly when some method has both: of two prefixes of one name the shorter one
begins the longer one, and the longer one is itself a name with both prefixes. -/
theorem Tag.overlaps_iff_exists_claimed (left right : Tag) :
    left.overlaps right = true ↔
      ∃ method, left.claims method = true ∧ right.claims method = true := by
  simp only [overlaps, claims, Bool.or_eq_true, List.isPrefixOf_iff_prefix]
  constructor
  · rintro (begins | begins)
    · exact ⟨right.methodPrefix, begins, List.prefix_rfl⟩
    · exact ⟨left.methodPrefix, List.prefix_rfl, begins⟩
  · rintro ⟨method, first, second⟩
    exact List.prefix_or_prefix_of_prefix first second

namespace ImplementationSet

/-- Prefixes that do not overlap are not empty. -/
theorem methodPrefix_ne_empty (set : ImplementationSet) :
    set.a.methodPrefix.isEmpty = false ∧ set.b.methodPrefix.isEmpty = false := by
  have apart := set.apart
  rw [Tag.overlaps, Bool.or_eq_false_iff] at apart
  obtain ⟨left, right⟩ := apart
  constructor
  · by_contra empty
    simp_all
  · by_contra empty
    simp_all

/-- No method belongs to both implementations. -/
theorem not_claimed_by_both (set : ImplementationSet) (method : String) :
    ¬ (set.a.claims method = true ∧ set.b.claims method = true) := by
  intro both
  have overlap := (Tag.overlaps_iff_exists_claimed set.a set.b).mpr ⟨method, both⟩
  rw [set.apart] at overlap
  contradiction

/-- A method that belongs to one implementation does not belong to another one. -/
theorem claims_eq_false_of_ne (set : ImplementationSet) {side owner : Side} (differ : side ≠ owner)
    {method : String} (claimed : (set.tag owner).claims method = true) :
    (set.tag side).claims method = false := by
  have notBoth := set.not_claimed_by_both method
  cases side <;> cases owner <;> simp_all [tag]

/-- The set of two tags is the one that holds them, if there is such a set. -/
theorem new_eq_ok_iff {a b : Tag} {baseline : Side} {set : ImplementationSet} :
    new a b baseline = .ok set ↔ set.a = a ∧ set.b = b ∧ set.baseline = baseline := by
  constructor
  · intro made
    unfold new at made
    split at made
    · contradiction
    · split at made
      · obtain rfl := Except.ok.inj made
        exact ⟨rfl, rfl, rfl⟩
      · contradiction
  · rintro ⟨rfl, rfl, rfl⟩
    obtain ⟨first, second⟩ := set.methodPrefix_ne_empty
    simp [new, first, second, set.apart]

/-- Two tags make a set exactly when their prefixes do not overlap. -/
theorem exists_new_iff {a b : Tag} {baseline : Side} :
    (∃ set, new a b baseline = .ok set) ↔ a.overlaps b = false := by
  constructor
  · rintro ⟨set, made⟩
    obtain ⟨rfl, rfl, -⟩ := new_eq_ok_iff.mp made
    exact set.apart
  · intro apart
    exact ⟨⟨a, b, baseline, apart⟩, new_eq_ok_iff.mpr ⟨rfl, rfl, rfl⟩⟩

end ImplementationSet

end Concord
