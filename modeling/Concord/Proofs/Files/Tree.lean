import Concord.Files.Tree
import Concord.Proofs.Fallible
import Mathlib.Tactic.SplitIfs

/-!
# What stands in a tree

What stands at a location after an entry was put somewhere or taken away, and where the segments of
a path lead. A walk that ends in a directory goes through directories only. So it leads to the same
place in every tree that has these directories.
-/

namespace Concord.Files

namespace FileTree

variable {tree other : FileTree}

section Standing

/-- The root is a directory. -/
theorem find?_root (tree : FileTree) : tree.find? [] = some .directory := by
  simp [find?]

/-- What was put at a location stands there, and elsewhere what stood there before. -/
theorem find?_insert (tree : FileTree) {place : Location} (below : place ≠ []) (entry : Entry)
    (location : Location) :
    (tree.insert place entry).find? location =
      if location = place then some entry else tree.find? location := by
  by_cases root : location = []
  · rw [root, find?_root, find?_root, if_neg below.symm]
  · by_cases same : location = place
    · simp [find?, insert, same, below]
    · have missed : (location == place) = false := beq_false_of_ne same
      simp [find?, insert, root, same, List.lookup_cons, missed]

/-- Items under another key do not matter to what is found under a key. -/
theorem lookup_filter_ne {β : Type} (items : List (Location × β)) {key gone : Location}
    (differ : key ≠ gone) :
    (items.filter fun item => item.1 ≠ gone).lookup key = items.lookup key := by
  induction items with
  | nil => rfl
  | cons item items ih =>
    obtain ⟨name, value⟩ := item
    by_cases named : name = gone
    · have missed : (key == name) = false := beq_false_of_ne (named ▸ differ)
      rw [List.filter_cons_of_neg (by simp [named]), ih, List.lookup_cons, missed]
    · rw [List.filter_cons_of_pos (by simp [named]), List.lookup_cons, List.lookup_cons, ih]

/-- Nothing stands at a location that was cleared, and elsewhere what stood there before. -/
theorem find?_erase (tree : FileTree) {place : Location} (below : place ≠ [])
    (location : Location) :
    (tree.erase place).find? location =
      if location = place then none else tree.find? location := by
  by_cases root : location = []
  · rw [root, find?_root, find?_root, if_neg below.symm]
  · by_cases same : location = place
    · have cleared : (tree.entries.filter fun item => item.1 ≠ place).lookup place = none := by
        rw [List.lookup_eq_none_iff]
        intro item there
        have other : item.1 ≠ place := of_decide_eq_true (List.mem_filter.mp there).2
        exact bne_iff_ne.mpr other.symm
      simp only [find?, erase, same, below, if_false, if_true, cleared]
    · simp only [find?, erase, root, same, if_false, lookup_filter_ne tree.entries same]

end Standing

section Walking

/-- Where one segment leads from a location. -/
def step (tree : FileTree) (here : Location) (segment : String) : Except FileError Location :=
  match tree.find? here with
  | none => .error .notFound
  | some (.file _) => .error .notDirectory
  | some .directory =>
    if isIdle segment then .ok here
    else if segment = ".." then .ok here.dropLast
    else if greatestName < segment.utf8ByteSize then .error .nameTooLong
    else if (tree.find? (here ++ [segment])).isSome then .ok (here ++ [segment])
    else .error .notFound

/-- A walk is a step and the walk from there. -/
theorem walk_cons (tree : FileTree) (here : Location) (segment : String) (rest : List String) :
    tree.walk here (segment :: rest) =
      tree.step here segment >>= fun next => tree.walk next rest := by
  rw [walk, step]
  cases tree.find? here with
  | none => rfl
  | some entry =>
    cases entry with
    | file content => rfl
    | directory =>
      dsimp only
      split_ifs with idle up long there
      · rfl
      · rfl
      · rfl
      · obtain ⟨entry, found⟩ := Option.isSome_iff_exists.mp there
        rw [found]
        rfl
      · rw [Option.not_isSome_iff_eq_none.mp there]
        rfl

/-- To walk along segments is to walk along the first of them and then along the others. -/
theorem walk_append (tree : FileTree) (here : Location) (front rest : List String) :
    tree.walk here (front ++ rest) =
      tree.walk here front >>= fun middle => tree.walk middle rest := by
  induction front generalizing here with
  | nil => rfl
  | cons segment front ih =>
    rw [List.cons_append, walk_cons, walk_cons]
    cases tree.step here segment with
    | error e => rfl
    | ok next => exact ih next

/-- A walk that goes on starts in a directory. -/
theorem find?_of_step {here next : Location} {segment : String}
    (stepped : tree.step here segment = .ok next) : tree.find? here = some .directory := by
  unfold step at stepped
  split at stepped
  · contradiction
  · contradiction
  · next found => exact found

/-- A walk that ends in a directory starts in one. -/
theorem find?_of_walk {here goal : Location} {segments : List String}
    (walked : tree.walk here segments = .ok goal) (ends : tree.find? goal = some .directory) :
    tree.find? here = some .directory := by
  cases segments with
  | nil => exact Except.ok.inj walked ▸ ends
  | cons segment rest =>
    rw [walk_cons, bind_eq_ok] at walked
    obtain ⟨next, stepped, -⟩ := walked
    exact find?_of_step stepped

/-- A step to a directory leads there in every tree with the same directories. -/
theorem step_of_directories
    (kept : ∀ location, tree.find? location = some .directory →
      other.find? location = some .directory) {here next : Location} {segment : String}
    (stepped : tree.step here segment = .ok next) (ends : tree.find? next = some .directory) :
    other.step here segment = .ok next := by
  have start := find?_of_step stepped
  unfold step at stepped ⊢
  simp only [start, kept here start] at stepped ⊢
  split_ifs at stepped with idle up long there
  · rw [if_pos idle, stepped]
  · rw [if_neg idle, if_pos up, stepped]
  · obtain rfl := Except.ok.inj stepped
    simp [idle, up, long, kept _ ends]

/-- A walk to a directory leads there in every tree with the same directories. -/
theorem walk_of_directories
    (kept : ∀ location, tree.find? location = some .directory →
      other.find? location = some .directory) {here goal : Location} {segments : List String}
    (walked : tree.walk here segments = .ok goal) (ends : tree.find? goal = some .directory) :
    other.walk here segments = .ok goal := by
  -- Every step but the last one ends in a directory, since the walk goes on from there.
  induction segments generalizing here with
  | nil => exact walked
  | cons segment rest ih =>
    rw [walk_cons, bind_eq_ok] at walked ⊢
    obtain ⟨next, stepped, later⟩ := walked
    exact ⟨next, step_of_directories kept stepped (find?_of_walk later ends), ih later⟩

end Walking

end FileTree

end Concord.Files
