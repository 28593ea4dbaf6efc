/-!
# The implementations under comparison

Two implementations are compared. Each has a tag: a name for display and the prefix that the names
of its methods begin with. An `ImplementationSet` holds both tags and which one is the baseline.
Its prefixes never overlap, so no method belongs to both; an empty prefix would overlap with any.
-/

namespace Concord

/-- One of the two implementations. -/
inductive Side where
  | a
  | b
deriving DecidableEq, Repr

/-- The other implementation. -/
def Side.other : Side → Side
  | .a => .b
  | .b => .a

/-- The letter of an implementation. -/
def Side.letter : Side → String
  | .a => "a"
  | .b => "b"

/-- The name and the method prefix of an implementation. -/
structure Tag where
  /-- The name used in labels. -/
  name : String
  /-- What the name of each of its methods begins with. -/
  methodPrefix : String
deriving DecidableEq, Repr

namespace Tag

/-- Whether a method belongs to the implementation. -/
def claims (tag : Tag) (method : String) : Bool :=
  tag.methodPrefix.toList.isPrefixOf method.toList

/-- Whether the prefix of one tag begins with that of the other. -/
def overlaps (left right : Tag) : Bool :=
  left.methodPrefix.toList.isPrefixOf right.methodPrefix.toList ||
    right.methodPrefix.toList.isPrefixOf left.methodPrefix.toList

end Tag

/-- Two implementations whose prefixes do not overlap, one of them the baseline. -/
structure ImplementationSet where
  /-- The first implementation. -/
  a : Tag
  /-- The second implementation. -/
  b : Tag
  /-- The implementation whose output counts as the reference. -/
  baseline : Side
  /-- No method belongs to both. -/
  apart : a.overlaps b = false

/-- Why two tags do not make a set. -/
inductive TagError where
  /-- A prefix is empty. -/
  | emptyPrefix
  /-- One prefix begins with the other. -/
  | overlap (left right : String)
deriving DecidableEq, Repr

/-- The wording of a tag error. -/
def TagError.message : TagError → String
  | .emptyPrefix => "implementation prefixes must not be empty"
  | .overlap left right => "prefixes `" ++ left ++ "` and `" ++ right ++ "` overlap"

namespace ImplementationSet

/-- The set used when nothing else is configured. -/
def default : ImplementationSet where
  a := ⟨"Rust", "Rust_"⟩
  b := ⟨"CPP", "CPP_"⟩
  baseline := .b
  apart := by decide

instance : Inhabited ImplementationSet := ⟨default⟩

/-- The set of two tags, unless a prefix is empty or the prefixes overlap. -/
def new (a b : Tag) (baseline : Side) : Except TagError ImplementationSet :=
  if a.methodPrefix.isEmpty || b.methodPrefix.isEmpty then .error .emptyPrefix
  else if apart : a.overlaps b = false then .ok ⟨a, b, baseline, apart⟩
  else .error (.overlap a.methodPrefix b.methodPrefix)

/-- The tag of an implementation. -/
def tag (set : ImplementationSet) : Side → Tag
  | .a => set.a
  | .b => set.b

/-- The implementation that is checked against the baseline. -/
def subject (set : ImplementationSet) : Side := set.baseline.other

/-- The set with another baseline. -/
def withBaseline (set : ImplementationSet) (baseline : Side) : ImplementationSet :=
  { set with baseline := baseline }

end ImplementationSet

end Concord
