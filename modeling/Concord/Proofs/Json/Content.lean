import Concord.Proofs.Json.Meaning

/-!
# Trees whose numbers keep their kind

`Value.content` forgets less of a value than its meaning: a number keeps its kind beside its value.
Two statements relate the ways of comparing values. Well formed values are the same exactly when
they have one content; and values have one content exactly when they have one meaning and no
integer stands in one of them where a floating point number stands in the other.
-/

namespace Concord.Json

/-- The kinds of numbers. -/
inductive NumberKind where
  | integer
  | float
deriving DecidableEq

/-- The kind of a number. -/
def Number.kind : Number → NumberKind
  | .integer _ => .integer
  | .float _ => .float

/-- A JSON tree, in which a number has a kind and a value. -/
inductive Content where
  | null
  | bool (value : Bool)
  | number (kind : NumberKind) (value : ℚ)
  | string (value : String)
  | array (items : List Content)
  | object (members : String → Option Content)

mutual

/-- The tree that a value is. -/
def Value.content : Value → Content
  | .null => .null
  | .bool b => .bool b
  | .number n => .number n.kind n.toRat
  | .string s => .string s
  | .array items => .array (itemContents items)
  | .object members => .object (memberContents members)

/-- The trees that the items of an array are, in order. -/
def itemContents : List Value → List Content
  | [] => []
  | value :: rest => value.content :: itemContents rest

/-- The tree that the member with a key is, if the object has it. -/
def memberContents : List (String × Value) → String → Option Content
  | [], _ => none
  | (name, value) :: rest, key => if name = key then some value.content else memberContents rest key

end

/-- Two parts that stand at one place of two values, down the same items and members. -/
inductive Corresponding : (left right part other : Value) → Prop where
  /-- The values themselves correspond. -/
  | here {left right : Value} : Corresponding left right left right
  /-- What corresponds in two items at one position does so in their arrays. -/
  | item {items others : List Value} {position : Nat} {a b part other : Value}
    (first : items[position]? = some a) (second : others[position]? = some b)
    (inside : Corresponding a b part other) :
    Corresponding (.array items) (.array others) part other
  /-- What corresponds in two members with one key does so in their objects. -/
  | member {members others : Members} {key : String} {a b part other : Value}
    (first : find? key members = some a) (second : find? key others = some b)
    (inside : Corresponding a b part other) :
    Corresponding (.object members) (.object others) part other

/-- No integer corresponds to a floating point number. -/
def KindsMatch (left right : Value) : Prop :=
  ∀ m n : Number, Corresponding left right (.number m) (.number n) → m.kind = n.kind

section Kinds

/-- Two numbers match in kind when they are of one kind. -/
theorem kindsMatch_number {m n : Number} :
    KindsMatch (.number m) (.number n) ↔ m.kind = n.kind := by
  constructor
  · exact fun kinds => kinds m n .here
  · rintro same _ _ ⟨⟩
    exact same

/-- Two arrays match in kinds when they do at every position. -/
theorem kindsMatch_array {items others : List Value} :
    KindsMatch (.array items) (.array others) ↔ ∀ (position : Nat) (a b : Value),
      items[position]? = some a → others[position]? = some b → KindsMatch a b := by
  constructor
  · intro kinds position a b first second m n inside
    exact kinds m n (.item first second inside)
  · intro each m n inside
    cases inside with
    | item first second inside => exact each _ _ _ first second m n inside

/-- Two objects match in kinds when they do under every key. -/
theorem kindsMatch_object {members others : Members} :
    KindsMatch (.object members) (.object others) ↔ ∀ (key : String) (a b : Value),
      find? key members = some a → find? key others = some b → KindsMatch a b := by
  constructor
  · intro kinds key a b first second m n inside
    exact kinds m n (.member first second inside)
  · intro each m n inside
    cases inside with
    | member first second inside => exact each _ _ _ first second m n inside

end Kinds

section Parts

/-- The contents of items are theirs one by one. -/
theorem itemContents_eq_map (items : List Value) :
    itemContents items = items.map Value.content := by
  induction items with
  | nil => rfl
  | cons value rest ih => rw [itemContents, ih, List.map_cons]

/-- The meanings of items are theirs one by one. -/
theorem itemMeanings_eq_map (items : List Value) :
    itemMeanings items = items.map Value.meaning := by
  induction items with
  | nil => rfl
  | cons value rest ih => rw [itemMeanings, ih, List.map_cons]

/-- The content of a member is that of the value found under its key. -/
theorem memberContents_eq (members : Members) (key : String) :
    memberContents members key = (find? key members).map Value.content := by
  induction members with
  | nil => rfl
  | cons member rest ih =>
    obtain ⟨name, value⟩ := member
    by_cases same : name = key <;> simp [memberContents, find?, same, ih]

/-- Two lists have the same images exactly when they do at every position. -/
theorem map_eq_map_iff_getElem? {α β : Type} {change : α → β} {xs ys : List α} :
    xs.map change = ys.map change ↔ ∀ n : Nat, xs[n]?.map change = ys[n]?.map change := by
  simp only [List.ext_getElem?_iff, List.getElem?_map]

/-- At one place of two values stands one content when it is one meaning and matches in kinds, if
that is so of the values that may stand there. -/
theorem map_content_eq_iff {first second : Option Value}
    (each : ∀ a b, first = some a →
      (a.content = b.content ↔ a.meaning = b.meaning ∧ KindsMatch a b)) :
    first.map Value.content = second.map Value.content ↔
      first.map Value.meaning = second.map Value.meaning ∧
        ∀ a b, first = some a → second = some b → KindsMatch a b := by
  cases first with
  | none => cases second <;> simp
  | some a =>
    cases second with
    | none => simp
    | some b => simpa using each a b rfl

end Parts

mutual

/-- Values have one content exactly when they have one meaning and match in kinds. -/
theorem Value.content_eq_iff : ∀ left right : Value,
    left.content = right.content ↔ left.meaning = right.meaning ∧ KindsMatch left right
  | .null, right => by
    have kinds : KindsMatch .null right := by rintro _ _ ⟨⟩
    cases right <;> simp [Value.content, Value.meaning, kinds]
  | .bool b, right => by
    have kinds : KindsMatch (.bool b) right := by rintro _ _ ⟨⟩
    cases right <;> simp [Value.content, Value.meaning, kinds]
  | .number m, right => by
    cases right with
    | number n => simp [Value.content, Value.meaning, kindsMatch_number, and_comm]
    | _ => simp [Value.content, Value.meaning]
  | .string s, right => by
    have kinds : KindsMatch (.string s) right := by rintro _ _ ⟨⟩
    cases right <;> simp [Value.content, Value.meaning, kinds]
  | .array items, right => by
    cases right with
    | array others =>
      simp only [Value.content, Value.meaning, Content.array.injEq, Meaning.array.injEq,
        itemContents_eq_map, itemMeanings_eq_map, map_eq_map_iff_getElem?, kindsMatch_array,
        ← forall_and]
      refine forall_congr' fun position => map_content_eq_iff fun a b found => ?_
      exact content_eq_iff_of_mem items a b (List.mem_of_getElem? found)
    | _ => simp [Value.content, Value.meaning]
  | .object members, right => by
    cases right with
    | object others =>
      simp only [Value.content, Value.meaning, Content.object.injEq, Meaning.object.injEq,
        funext_iff, memberContents_eq, memberMeanings_eq, kindsMatch_object, ← forall_and]
      refine forall_congr' fun key => map_content_eq_iff fun a b found => ?_
      exact content_eq_iff_of_member members key a b (mem_of_find?_eq_some found)
    | _ => simp [Value.content, Value.meaning]

/-- So do the items of an array. -/
theorem content_eq_iff_of_mem : ∀ (items : List Value) (item other : Value), item ∈ items →
    (item.content = other.content ↔ item.meaning = other.meaning ∧ KindsMatch item other)
  | [], _, _, there => absurd there List.not_mem_nil
  | first :: rest, item, other, there => by
    rcases List.mem_cons.mp there with same | later
    · rw [same]
      exact Value.content_eq_iff first other
    · exact content_eq_iff_of_mem rest item other later

/-- So do the members of an object. -/
theorem content_eq_iff_of_member : ∀ (members : List (String × Value)) (key : String)
    (value other : Value), (key, value) ∈ members →
    (value.content = other.content ↔ value.meaning = other.meaning ∧ KindsMatch value other)
  | [], _, _, _, there => absurd there List.not_mem_nil
  | (_, first) :: rest, key, value, other, there => by
    rcases List.mem_cons.mp there with same | later
    · rw [(Prod.mk.inj same).2]
      exact Value.content_eq_iff first other
    · exact content_eq_iff_of_member rest key value other later

end

section Sameness

/-- Numbers are the same exactly when they have one kind and one value. -/
theorem Number.same_iff {m n : Number} :
    m.same n = true ↔ m.kind = n.kind ∧ m.toRat = n.toRat := by
  cases m with
  | integer m => cases n <;> simp [Number.same, Number.kind, Number.toRat]
  | float x =>
    cases n with
    | integer n => simp [Number.same, Number.kind]
    | float y => simp [Number.same, Number.kind, Number.toRat, Binary64.equals_iff]

/-- Members with increasing keys are determined by what is found under each key. -/
theorem eq_of_find?_eq {α : Type} {left right : List (String × α)}
    (leftKeys : (left.map Prod.fst).Pairwise (· < ·))
    (rightKeys : (right.map Prod.fst).Pairwise (· < ·))
    (same : ∀ key, find? key left = find? key right) : left = right := by
  have distinct {a b : String} (below : a < b) : a ≠ b := by
    rintro rfl
    exact String.lt_irrefl a below
  have leftDistinct : (left.map Prod.fst).Nodup := leftKeys.imp distinct
  have rightDistinct : (right.map Prod.fst).Nodup := rightKeys.imp distinct
  have perm : left.Perm right := by
    rw [List.perm_ext_iff_of_nodup (.of_map _ leftDistinct) (.of_map _ rightDistinct)]
    rintro ⟨key, value⟩
    constructor
    · intro there
      exact mem_of_find?_eq_some ((same key).symm.trans (find?_eq_some_of_mem leftDistinct there))
    · intro there
      exact mem_of_find?_eq_some ((same key).trans (find?_eq_some_of_mem rightDistinct there))
  refine perm.eq_of_pairwise ?_ (List.pairwise_map.mp leftKeys) (List.pairwise_map.mp rightKeys)
  intro first second _ _ below above
  exact absurd (String.lt_trans below above) (String.lt_irrefl _)

/-- A member with its value as a tree. -/
def memberContent (member : String × Value) : String × Content := (member.1, member.2.content)

/-- Objects with increasing keys are one tree exactly when their members are, one by one. -/
theorem memberContents_eq_iff {left right : Members} (leftKeys : KeysIncrease left)
    (rightKeys : KeysIncrease right) :
    memberContents left = memberContents right ↔
      left.map memberContent = right.map memberContent := by
  have found (members : Members) (key : String) :
      find? key (members.map memberContent) = memberContents members key := by
    rw [memberContents_eq]
    exact find?_map key Value.content members
  have keys (members : Members) :
      (members.map memberContent).map Prod.fst = members.map Prod.fst := by
    rw [List.map_map]
    rfl
  constructor
  · intro same
    apply eq_of_find?_eq
    · rwa [keys]
    · rwa [keys]
    · intro key
      rw [found, found, same]
  · intro same
    funext key
    rw [← found, ← found, same]

mutual

/-- Well formed values are the same exactly when they have one content. -/
theorem Value.same_iff : ∀ {left right : Value}, left.WellFormed → right.WellFormed →
    (left.same right = true ↔ left.content = right.content)
  | .null, right, _, _ => by cases right <;> simp [Value.same, Value.content]
  | .bool b, right, _, _ => by cases right <;> simp [Value.same, Value.content]
  | .number n, right, _, _ => by
    cases right with
    | number m => simp [Value.same, Value.content, Number.same_iff]
    | _ => simp [Value.same, Value.content]
  | .string s, right, _, _ => by cases right <;> simp [Value.same, Value.content]
  | .array items, right, leftForm, rightForm => by
    cases right with
    | array others => simpa [Value.same, Value.content] using sameItems_iff leftForm rightForm
    | _ => simp [Value.same, Value.content]
  | .object members, right, leftForm, rightForm => by
    cases right with
    | object others =>
      rw [Value.same, Value.content, Value.content, Content.object.injEq,
        memberContents_eq_iff leftForm.1 rightForm.1]
      exact sameMembers_iff leftForm.2 rightForm.2
    | _ => simp [Value.same, Value.content]

/-- Lists of well formed values are the same exactly when their contents are. -/
theorem sameItems_iff : ∀ {left right : List Value}, WellFormedItems left → WellFormedItems right →
    (sameItems left right = true ↔ itemContents left = itemContents right)
  | [], [], _, _ => by simp [sameItems]
  | [], _ :: _, _, _ => by simp [sameItems, itemContents]
  | _ :: _, [], _, _ => by simp [sameItems, itemContents]
  | _ :: _, _ :: _, leftForm, rightForm => by
    simp only [sameItems, itemContents, Bool.and_eq_true, List.cons.injEq,
      Value.same_iff leftForm.1 rightForm.1, sameItems_iff leftForm.2 rightForm.2]

/-- Well formed members are the same exactly when they have the same keys and contents, one by
one. -/
theorem sameMembers_iff : ∀ {left right : List (String × Value)}, WellFormedMembers left →
    WellFormedMembers right →
    (sameMembers left right = true ↔ left.map memberContent = right.map memberContent)
  | [], [], _, _ => by simp [sameMembers]
  | [], _ :: _, _, _ => by simp [sameMembers]
  | _ :: _, [], _, _ => by simp [sameMembers]
  | (_, _) :: _, (_, _) :: _, leftForm, rightForm => by
    simp only [sameMembers, memberContent, List.map_cons, Bool.and_eq_true, List.cons.injEq,
      Prod.mk.injEq, beq_iff_eq, Value.same_iff leftForm.1 rightForm.1,
      sameMembers_iff leftForm.2 rightForm.2]

end

end Sameness

end Concord.Json
