import Concord.Proofs.Suite.DocumentShape

/-!
# Reading and writing intervals

An interval is read from a JSON value and written in two ways: as a value, its members in the order
of their keys, and as a record, its own members in front. What reading establishes is
`Interval.Proper`: the other members are in order, and none of them has the name of a member that
makes an interval. Between the proper intervals and the values of their shape, reading and either
way of writing are inverse.
-/

namespace Concord.Interval

open Json

/-- What holds of an interval that was read: its numbers fit their kinds, its other members are
those of a well formed object, and none of them could be taken for one of its own. -/
structure Proper (i : Interval) : Prop where
  /-- The first end fits its kind. -/
  start : i.start.Fits
  /-- The second end fits its kind. -/
  finish : i.finish.Fits
  /-- The other members are in order and well formed. -/
  extra : (Value.object i.extra).WellFormed
  /-- No other member has the name of one of its own. -/
  others : ∀ key ∈ keys, find? key i.extra = none

/-- An interval is read from a value exactly when it has the shape of one. -/
theorem exists_ofOutput?_iff {value : Value} (form : value.WellFormed) :
    (∃ i, ofOutput? value = some i) ↔ value.IsInterval := by
  rw [← exists_interval_iff form]
  exact exists_congr fun i => toOption_eq_some

/-- An interval that is read from a well formed value is proper. -/
theorem proper_of_ofValue {value : Value} (form : value.WellFormed) {i : Interval}
    (read : ofValue value = .ok i) : i.Proper := by
  obtain ⟨members, rfl, start, finish, -, others⟩ := ofValue_eq_ok.mp read
  obtain ⟨increase, values⟩ := id form
  refine ⟨wellFormed_of_find? form start, wellFormed_of_find? form finish, ⟨?_, ?_⟩, ?_⟩
  · rw [others]
    exact List.Pairwise.sublist (List.filter_sublist.map Prod.fst) increase
  · rw [others, wellFormedMembers_iff]
    exact fun member there => wellFormedMembers_iff.mp values member (List.mem_of_mem_filter there)
  · intro key own
    rw [others, find?_eq_none_iff]
    intro there
    obtain ⟨member, kept, rfl⟩ := List.mem_map.mp there
    have other : member.1 ∉ keys := by simpa using (List.mem_filter.mp kept).2
    exact other own

section Members

variable {i : Interval} {members : Members}

/-- No other member of a proper interval has one of the names left out. -/
theorem Proper.without_extra (proper : i.Proper) : without keys i.extra = i.extra := by
  apply List.filter_eq_self.mpr
  intro member there
  rw [Bool.not_eq_true', ← Bool.not_eq_true, List.contains_iff_mem]
  intro own
  exact find?_eq_none_iff.mp (proper.others _ own) (List.mem_map_of_mem there)

/-- Without its own members an interval is left with the others. -/
theorem Proper.without_members (proper : i.Proper) :
    without keys (i.ownMembers ++ i.extra) = i.extra := by
  have none : without keys i.ownMembers = [] := rfl
  calc
    without keys (i.ownMembers ++ i.extra)
        = without keys i.ownMembers ++ without keys i.extra := List.filter_append ..
    _ = i.extra := by rw [none, proper.without_extra, List.nil_append]

/-- The members of a proper interval have different keys. -/
theorem Proper.nodup_keys (proper : i.Proper) :
    ((i.ownMembers ++ i.extra).map Prod.fst).Nodup := by
  rw [List.map_append]
  have own : (i.ownMembers.map Prod.fst).Nodup := by
    show keys.Nodup
    decide
  refine own.append proper.extra.1.nodup ?_
  intro key first second
  exact find?_eq_none_iff.mp (proper.others key first) second

/-- An interval is read from its members, in whatever order its own stand, if the others are left
in theirs. -/
theorem Proper.ofValue_object (proper : i.Proper)
    (same : members.Perm (i.ownMembers ++ i.extra)) (others : without keys members = i.extra) :
    ofValue (.object members) = .ok i := by
  have distinct : (members.map Prod.fst).Nodup :=
    (same.map Prod.fst).nodup_iff.mpr proper.nodup_keys
  have found {key : String} {value : Value} (own : (key, value) ∈ i.ownMembers) :
      find? key members = some value :=
    find?_eq_some_of_mem distinct (same.mem_iff.mpr (List.mem_append_left _ own))
  apply ofValue_eq_ok.mpr
  refine ⟨members, rfl, found ?_, found ?_, found ?_, others.symm⟩ <;> simp [ownMembers]

/-- An interval is read from the record it is written as. -/
theorem Proper.ofValue_toRecord (proper : i.Proper) : ofValue i.toRecord = .ok i :=
  proper.ofValue_object (List.Perm.refl _) proper.without_members

/-- An interval is read from the value it is written as. -/
theorem Proper.ofValue_toValue (proper : i.Proper) : ofValue i.toValue = .ok i := by
  have sorted := sortMembers_perm proper.nodup_keys
  apply proper.ofValue_object sorted
  -- Sorting may only have moved the other members among the interval's own.
  have increase : KeysIncrease (without keys (sortMembers (i.ownMembers ++ i.extra))) :=
    List.Pairwise.sublist (List.filter_sublist.map Prod.fst) (keysIncrease_sortMembers _)
  apply increase.eq_of_perm proper.extra.1
  have kept := sorted.filter fun member => !keys.contains member.1
  exact kept.trans (List.Perm.of_eq proper.without_members)

/-- The members of a proper interval are well formed. -/
theorem Proper.wellFormedMembers (proper : i.Proper) :
    WellFormedMembers (i.ownMembers ++ i.extra) := by
  rw [wellFormedMembers_iff]
  intro member there
  rcases List.mem_append.mp there with own | other
  · simp only [ownMembers, List.mem_cons, List.not_mem_nil, or_false] at own
    rcases own with rfl | rfl | rfl
    · exact proper.start
    · exact proper.finish
    · trivial
  · exact wellFormedMembers_iff.mp proper.extra.2 member other

/-- A proper interval is written as a well formed value. -/
theorem Proper.wellFormed_toValue (proper : i.Proper) : i.toValue.WellFormed := by
  refine ⟨keysIncrease_sortMembers _, wellFormedMembers_iff.mpr fun member there => ?_⟩
  exact wellFormedMembers_iff.mp proper.wellFormedMembers member (mem_of_mem_sortMembers there)

/-- The record of a proper interval, its members in order, is the value it is written as. -/
theorem Proper.ordered_toRecord (proper : i.Proper) : i.toRecord.ordered = i.toValue := by
  rw [toRecord, Value.ordered, proper.wellFormedMembers.ordered_eq]
  rfl

end Members

/-- Reading and both ways of writing are inverse. An interval is read exactly from an object whose
ends are numbers and that says whether it is empty; it is proper, is written as the value it was
read from in either way, and is read back from both. And every proper interval is written as a
well formed value, in either way the same, from which it is read back. -/
theorem reading_inverts_writing :
    (∀ value : Value, value.WellFormed →
      ((∃ i, ofOutput? value = some i) ↔ value.IsInterval) ∧
      ∀ i, ofOutput? value = some i →
        i.Proper ∧ i.toValue = value ∧ i.toRecord.ordered = value ∧
          ofOutput? i.toValue = some i ∧ ofOutput? i.toRecord.ordered = some i ∧
          ofOutput? i.toRecord = some i) ∧
    ∀ i : Interval, i.Proper →
      i.toValue.WellFormed ∧ i.toRecord.ordered = i.toValue ∧
        ofOutput? i.toValue = some i ∧ ofOutput? i.toRecord = some i := by
  refine ⟨fun value form => ⟨exists_ofOutput?_iff form, fun i read => ?_⟩, fun i proper => ?_⟩
  · have done := toOption_eq_some.mp read
    have proper := proper_of_ofValue form done
    have record : i.toRecord.ordered = value := ordered_toRecord form done
    have whole : i.toValue = value := proper.ordered_toRecord.symm.trans record
    refine ⟨proper, whole, record, ?_, ?_, toOption_eq_some.mpr proper.ofValue_toRecord⟩
    · rw [whole, read]
    · rw [record, read]
  · exact ⟨proper.wellFormed_toValue, proper.ordered_toRecord,
      toOption_eq_some.mpr proper.ofValue_toValue, toOption_eq_some.mpr proper.ofValue_toRecord⟩

/-- An interval whose ends are a floating point zero with a sign and the greatest integer, with
further members before, between and after its own: nothing of it changes its kind or its place. -/
theorem reading_inverts_writing_mixed_numbers :
    let source : Value := .object [("bits", .number (.float (.zero false))), ("notes", .null)]
    let value : Value := .object [("bitwidth", .number (.integer 64)),
      ("end", .number (.integer 18446744073709551615)), ("is_bottom", .bool false),
      ("source", source), ("start", .number (.float (.zero true))), ("tags", .array [source])]
    value.WellFormed ∧ ∃ i, ofOutput? value = some i ∧ i.extra.length = 3 ∧ i.toValue = value ∧
      i.toRecord.ordered = value ∧ ofOutput? i.toRecord = some i := by
  intro source value
  have innerKeys : ["bits", "notes"].Pairwise (· < ·) := by decide
  have increase : ["bitwidth", "end", "is_bottom", "source", "start", "tags"].Pairwise (· < ·) := by
    decide
  have inner : source.WellFormed := ⟨innerKeys, trivial, trivial, trivial⟩
  have form : value.WellFormed :=
    ⟨increase, ⟨by decide, by decide⟩, ⟨by decide, by decide⟩, trivial, inner, trivial,
      ⟨inner, trivial⟩, trivial⟩
  obtain ⟨-, kept⟩ := reading_inverts_writing.1 value form
  obtain ⟨-, whole, record, -, -, back⟩ := kept _ rfl
  exact ⟨form, _, rfl, rfl, whole, record, back⟩

end Concord.Interval
