import Concord.Proofs.Files.Replace

/-!
# The directory that holds a place

A path that gives a place to a file has a last segment that is a name. What is left without it is
the path of the parent: segments that add nothing are dropped at its end, which does not change
where it leads. So the parent leads to the directory of the place, and a temporary file created in
the parent stands beside the place it will take.
-/

namespace Concord.Files

section Segments

/-- What is split off at a separator has none, and is part of the whole. -/
theorem of_mem_splitOn {separator : Char} {cs piece : List Char}
    (there : piece ∈ cs.splitOn separator) {c : Char} (inside : c ∈ piece) :
    c ∈ cs ∧ c ≠ separator := by
  induction cs generalizing piece c with
  | nil =>
    rw [List.splitOn_nil, List.mem_singleton] at there
    simp [there] at inside
  | cons first rest ih =>
    rw [List.splitOn_cons_eq_if_modifyHead] at there
    by_cases here : first = separator
    · rw [if_pos (by simp [here]), List.mem_cons] at there
      rcases there with rfl | later
      · contradiction
      · exact ⟨List.mem_cons_of_mem _ (ih later inside).1, (ih later inside).2⟩
    · rw [if_neg (by simp [here])] at there
      obtain ⟨head, tail, split⟩ := List.exists_cons_of_ne_nil (List.splitOn_ne_nil separator rest)
      rw [split, List.modifyHead_cons, List.mem_cons] at there
      rcases there with rfl | later
      · rcases List.mem_cons.mp inside with rfl | inHead
        · exact ⟨List.mem_cons_self, here⟩
        · have found : head ∈ rest.splitOn separator := by simp [split]
          exact ⟨List.mem_cons_of_mem _ (ih found inHead).1, (ih found inHead).2⟩
      · have found : piece ∈ rest.splitOn separator := by simp [split, later]
        exact ⟨List.mem_cons_of_mem _ (ih found inside).1, (ih found inside).2⟩

/-- A character of a segment is a character of the path, and no slash. -/
theorem of_mem_segments {path segment : String} (there : segment ∈ segments path) {c : Char}
    (inside : c ∈ segment.toList) : c ∈ path.toList ∧ c ≠ '/' := by
  obtain ⟨piece, split, rfl⟩ := List.mem_map.mp there
  rw [String.toList_ofList] at inside
  exact of_mem_splitOn split inside

/-- The segments of a path without null characters hold neither these nor slashes. -/
theorem plain_of_mem_segments {path segment : String} (sound : path.contains '\x00' = false)
    (among : segment ∈ segments path) : ∀ c ∈ segment.toList, c ≠ '/' ∧ c ≠ '\x00' := by
  intro c there
  obtain ⟨inPath, notSlash⟩ := of_mem_segments among there
  refine ⟨notSlash, ?_⟩
  rintro rfl
  rw [String.contains_char_eq, decide_eq_false_iff_not] at sound
  exact sound inPath

/-- A character of pieces between separators is a separator or comes from a piece. -/
theorem of_mem_intercalate {separator c : Char} {pieces : List (List Char)}
    (inside : c ∈ [separator].intercalate pieces) : c = separator ∨ ∃ piece ∈ pieces, c ∈ piece := by
  induction pieces with
  | nil => simp at inside
  | cons first rest ih =>
    cases rest with
    | nil =>
      rw [List.intercalate_singleton] at inside
      exact .inr ⟨first, List.mem_cons_self, inside⟩
    | cons second rest =>
      rw [List.intercalate_cons_cons, List.mem_append, List.mem_append] at inside
      rcases inside with (inFirst | between) | later
      · exact .inr ⟨first, List.mem_cons_self, inFirst⟩
      · exact .inl (List.mem_singleton.mp between)
      · refine (ih later).imp_right fun ⟨piece, member, there⟩ => ?_
        exact ⟨piece, List.mem_cons_of_mem _ member, there⟩

/-- Segments between slashes are the segments of the path that they make. -/
theorem segments_intercalate {names : List String} (filled : names ≠ [])
    (plain : ∀ name ∈ names, '/' ∉ name.toList) :
    segments ("/".intercalate names) = names := by
  have split : (['/'].intercalate (names.map String.toList)).splitOn '/' =
      names.map String.toList := by
    refine List.splitOn_intercalate '/' (fun piece there => ?_) (by simpa using filled)
    obtain ⟨name, member, rfl⟩ := List.mem_map.mp there
    exact plain name member
  rw [segments, String.toList_intercalate]
  show ((['/'].intercalate (names.map String.toList)).splitOn '/').map String.ofList = names
  rw [split, List.map_map]
  simp [Function.comp_def]

end Segments

section Idle

/-- Only segments that add nothing are dropped, and not all of them. -/
theorem exists_dropIdle (names : List String) :
    ∃ idles, names = idles ++ dropIdle names ∧ (∀ segment ∈ idles, isIdle segment = true) ∧
      (names ≠ [] → dropIdle names ≠ []) := by
  induction names using dropIdle.induct with
  | case1 => exact ⟨[], rfl, by simp, by simp [dropIdle]⟩
  | case2 first => exact ⟨[], rfl, by simp, by simp [dropIdle]⟩
  | case3 segment rest several idle ih =>
    obtain ⟨idles, split, all, some⟩ := ih
    have dropped : dropIdle (segment :: rest) = dropIdle rest := by
      rw [dropIdle, if_pos idle]
      exact several
    refine ⟨segment :: idles, ?_, ?_, fun _ => ?_⟩
    · rw [dropped, List.cons_append, ← split]
    · exact List.forall_mem_cons.mpr ⟨idle, all⟩
    · rw [dropped]
      exact some several
  | case4 segment rest several busy =>
    have kept : dropIdle (segment :: rest) = segment :: rest := by
      rw [dropIdle, if_neg busy]
      exact several
    exact ⟨[], by rw [kept, List.nil_append], by simp, by simp [kept]⟩

/-- Nothing is dropped in front of a segment that adds something. -/
theorem dropIdle_busy {segment : String} (busy : isIdle segment = false) (rest : List String) :
    dropIdle (segment :: rest) = segment :: rest := by
  cases rest with
  | nil => rfl
  | cons next rest => rw [dropIdle, if_neg (by simp [busy])]; simp

end Idle

namespace FileTree

variable {tree : FileTree}

/-- Segments that add nothing lead from a directory to itself. -/
theorem walk_idle {here : Location} (inside : tree.find? here = some .directory)
    {idles : List String} (all : ∀ segment ∈ idles, isIdle segment = true) :
    tree.walk here idles = .ok here := by
  induction idles with
  | nil => rfl
  | cons segment idles ih =>
    obtain ⟨idle, others⟩ := List.forall_mem_cons.mp all
    have stays : tree.step here segment = .ok here := by simp [step, inside, idle]
    rw [walk_cons, stays]
    exact ih others

/-- To walk along a path is to walk along its front and then along the rest. -/
theorem walkPath_append_of_ne_nil (tree : FileTree) {front : List String} (some : front ≠ [])
    (rest : List String) :
    tree.walkPath (front ++ rest) =
      tree.walkPath front >>= fun middle => tree.walk middle rest := by
  obtain ⟨first, others, rfl⟩ := List.exists_cons_of_ne_nil some
  by_cases root : first = ""
  · subst root
    exact walk_append tree [] others rest
  · have relative : (first :: (others ++ rest)).head? ≠ Option.some "" := by simpa using root
    have relativeToo : (first :: others).head? ≠ Option.some "" := by simpa using root
    rw [List.cons_append, walkPath_relative tree relative, walkPath_relative tree relativeToo]
    exact walk_append tree tree.home (first :: others) rest

/-- Segments that add nothing can be dropped at the end of a path to a directory. -/
theorem walkPath_of_append_idle {kept idles : List String} (filled : kept ≠ [])
    (all : ∀ segment ∈ idles, isIdle segment = true) {directory : Location}
    (walked : tree.walkPath (kept ++ idles) = .ok directory)
    (inside : tree.find? directory = some .directory) : tree.walkPath kept = .ok directory := by
  rw [walkPath_append_of_ne_nil tree filled, bind_eq_ok] at walked
  obtain ⟨middle, front, after⟩ := walked
  rw [walk_idle (find?_of_walk after inside) all] at after
  rw [front, Except.ok.inj after]

/-- A path made of segments leads where its segments lead, unless it is empty. -/
theorem locate_intercalate (tree : FileTree) {names : List String} (filled : names ≠ [])
    (nonempty : names ≠ [""]) (plain : ∀ name ∈ names, ∀ c ∈ name.toList, c ≠ '/' ∧ c ≠ '\x00') :
    tree.locate ("/".intercalate names) = tree.walkPath names := by
  have split : segments ("/".intercalate names) = names :=
    segments_intercalate filled fun name member slash => (plain name member '/' slash).1 rfl
  have some : ("/".intercalate names).isEmpty = false := by
    rw [String.isEmpty_eq_false_iff]
    intro empty
    rw [empty] at split
    exact nonempty (split.symm.trans (by decide))
  have sound : ("/".intercalate names).contains '\x00' = false := by
    rw [String.contains_char_eq, decide_eq_false_iff_not, String.toList_intercalate]
    intro null
    rcases of_mem_intercalate null with slash | ⟨piece, there, inside⟩
    · exact absurd slash (by decide)
    · obtain ⟨name, member, rfl⟩ := List.mem_map.mp there
      exact (plain name member '\x00' inside).2 rfl
  rw [locate, some, sound, split]
  rfl

/-- A dot leads to the working directory. -/
theorem locate_dot (inside : tree.find? tree.home = some .directory) :
    tree.locate "." = .ok tree.home := by
  have single : segments "." = ["."] := by decide
  have stays : tree.walk tree.home ["."] = .ok tree.home :=
    walk_idle inside (by simp [isIdle])
  rw [locate, if_neg (by decide), if_neg (by simp), single,
    walkPath_relative tree (by decide), stays]

/-- A slash leads to the root. -/
theorem locate_slash (tree : FileTree) : tree.locate "/" = .ok [] := by
  have empty : segments "/" = ["", ""] := by decide
  have stays : tree.walk [] [""] = .ok [] := walk_idle (find?_root tree) (by simp [isIdle])
  rw [locate, if_neg (by decide), if_neg (by simp), empty]
  exact stays

/-- The parent of a path that ends with a name consists of the segments before it. -/
theorem parent_eq {path name : String} {before : List String}
    (split : segments path = before ++ [name]) (busy : isIdle name = false) :
    parent path =
      if dropIdle before.reverse = [""] then "/"
      else if (dropIdle before.reverse).isEmpty then "."
      else "/".intercalate (dropIdle before.reverse).reverse := by
  have reversed : (segments path).reverse = name :: before.reverse := by simp [split]
  rw [parent, reversed, dropIdle_busy busy, List.drop_one, List.tail_cons]

/-- The parent of a path that gives a place to a file leads to the directory of the place. -/
theorem locateDirectory_parent {path : String} {directory : Location} {name : String}
    (places : tree.Places path directory name) :
    tree.locateDirectory (parent path) = .ok directory := by
  obtain ⟨sound, ⟨before, split, walked⟩, inside, busy, -, -, -⟩ := places
  have located : tree.locate (parent path) = .ok directory := by
    rw [parent_eq split busy]
    obtain ⟨idles, parts, all, some⟩ := exists_dropIdle before.reverse
    generalize dropIdle before.reverse = kept at parts some ⊢
    have order : before = kept.reverse ++ idles.reverse := by
      rw [← List.reverse_append, ← parts, List.reverse_reverse]
    have idle : ∀ segment ∈ idles.reverse, isIdle segment = true := by simpa using all
    by_cases none : before = []
    · -- There is no way to the place: it is in the working directory.
      have empty : kept = [] := by
        rw [none] at parts
        exact (List.append_eq_nil_iff.mp parts.symm).2
      rw [none] at walked
      obtain rfl : tree.home = directory := Except.ok.inj walked
      rw [empty, if_neg (by decide)]
      exact locate_dot inside
    have filled : kept.reverse ≠ [] := by simpa using some (by simpa using none)
    have front : tree.walkPath kept.reverse = .ok directory :=
      walkPath_of_append_idle filled idle (order ▸ walked) inside
    by_cases root : kept = [""]
    · rw [root] at front
      obtain rfl : [] = directory := Except.ok.inj front
      rw [if_pos root]
      exact locate_slash tree
    · have notEmpty : kept.isEmpty = false := by simpa using filled
      have plain : ∀ segment ∈ kept.reverse, ∀ c ∈ segment.toList, c ≠ '/' ∧ c ≠ '\x00' := by
        intro segment member
        apply plain_of_mem_segments sound
        rw [split, order, List.mem_append, List.mem_append]
        exact .inl (.inl member)
      rw [if_neg root, notEmpty, if_neg Bool.false_ne_true,
        locate_intercalate tree filled (by simpa using root) plain]
      exact front
  simp only [locateDirectory, located, bind, Except.bind, inside]

end FileTree

end Concord.Files
