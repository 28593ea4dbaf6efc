import Concord.Proofs.Json.ReaderSteps
import Concord.Proofs.Json.RoundTrip

/-!
# Values that are read can be written

Whatever text is read, its value is well formed and fits: the reader lets no integer beyond 64 bits
through, keeps one member for each key, and does not go deeper than its limit.
-/

namespace Concord.Json

mutual

/-- The value of a tree is well formed: numbers are read within their kinds, and the members of
objects are sorted. -/
theorem Source.wellFormed_value : ∀ source : Source, source.value.WellFormed
  | .null => trivial
  | .bool _ => trivial
  | .number written => Numeral.number?_fits written.number?_eq
  | .string _ => trivial
  | .array items => wellFormed_itemValues items
  | .object members => by
    refine ⟨keysIncrease_sortMembers _, wellFormedMembers_iff.mpr fun member there => ?_⟩
    exact wellFormed_memberValues members member (mem_of_mem_sortMembers there)

/-- The values of the items of an array are well formed. -/
theorem wellFormed_itemValues : ∀ items : List Source, WellFormedItems (itemValues items)
  | [] => trivial
  | item :: rest => ⟨item.wellFormed_value, wellFormed_itemValues rest⟩

/-- The values of the members of an object are well formed. -/
theorem wellFormed_memberValues : ∀ (members : List (String × Source)),
    ∀ member ∈ memberValues members, member.2.WellFormed
  | [], _, there => absurd there List.not_mem_nil
  | (key, source) :: rest, member, there => by
    rw [memberValues] at there
    rcases List.mem_cons.mp there with rfl | later
    · exact source.wellFormed_value
    · exact wellFormed_memberValues rest member later

end

/-- Every value that is read is well formed. -/
theorem wellFormed_of_parse {text : String} {value : Value}
    (parsed : Value.parse text = .ok value) : value.WellFormed := by
  obtain ⟨source, -, rfl⟩ := map_eq_ok.mp parsed
  exact source.wellFormed_value

/-- The value of an array fits when those of its items do. -/
theorem fits_array {levels : Nat} {sources : List Source} (short : sources.length < 2 ^ 64)
    (each : ∀ source ∈ sources, source.value.Fits levels) :
    (Source.array sources).value.Fits (levels + 1) := by
  rw [Source.value, itemValues_eq_map]
  refine ⟨by simpa using short, fun item there => ?_⟩
  obtain ⟨source, inside, rfl⟩ := List.mem_map.mp there
  exact each source inside

/-- The value of an object fits when those of its members do: its keys are distinct because they are
sorted. -/
theorem fits_object {levels : Nat} {members : List (String × Source)}
    (each : ∀ member ∈ members, member.2.value.Fits levels) :
    (Source.object members).value.Fits (levels + 1) := by
  rw [Source.value]
  refine ⟨(keysIncrease_sortMembers _).nodup, fun member there => ?_⟩
  have present := mem_of_mem_sortMembers there
  rw [memberValues_eq_map] at present
  obtain ⟨source, inside, rfl⟩ := List.mem_map.mp present
  exact each source inside

/-- A value that is read fits as many levels as the reader is allowed. -/
theorem fits_of_readValue {size levels : Nat} (short : size < 2 ^ 64) {text rest : List Char}
    {source : Source} (read : readValue size levels text = .ok (source, rest)) :
    source.value.Fits levels := by
  induction levels using Nat.strongRecOn generalizing text rest source with
  | ind levels ih =>
    have scalar {value : Value} (fits : value.Fits 0) : value.Fits levels := fits.of_scalar levels
    have step := valueRead_of_readValue read
    generalize skipBlanks text = front at step
    cases step with
    | null => exact scalar trivial
    | true => exact scalar trivial
    | false => exact scalar trivial
    | string quoted => exact scalar trivial
    | @number _ _ _ _ written => exact scalar (Numeral.number?_fits written.number?_eq)
    | array inside =>
      obtain ⟨each, fewer⟩ := inside.all (ih _ (Nat.lt_succ_self _))
      exact fits_array (Nat.lt_of_le_of_lt fewer short) each
    | object inside =>
      refine fits_object (inside.all fun read => ?_).1
      cases read with
      | colon _ _ _ value => exact ih _ (Nat.lt_succ_self _) value

/-- The value of a text fits the limit of the reader. -/
theorem fits_of_parse {text : String} {value : Value} (parsed : Value.parse text = .ok value)
    (held : text.length < 2 ^ 64) : value.Fits nestingLimit := by
  obtain ⟨source, read, rfl⟩ := map_eq_ok.mp parsed
  rw [Source.parse] at read
  have whole := mapError_eq_ok.mp read
  rw [readText] at whole
  obtain ⟨⟨found, rest⟩, first, last⟩ := bind_eq_ok.mp whole
  have same : found = source := by
    simp only at last
    split at last
    · exact Except.ok.inj last
    · contradiction
  rw [← same]
  refine fits_of_readValue ?_ first
  rwa [String.length_toList]

end Concord.Json
