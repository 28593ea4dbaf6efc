import Concord.Files.Access
import Concord.Proofs.Files.Tree

/-!
# Replaced files

Replacing a file changes what stands at one location: the temporary file is new there and is gone
in the end. The location is the one that the path of the file leads to afterwards, as the way to it
is through directories and these stay. So what was written is what is read.
-/

namespace Concord.Files

namespace FileTree

variable {tree after : FileTree}

/-- A path gives a place to a file: its last segment is a name in the directory to which the
segments before it lead. -/
structure Places (tree : FileTree) (path : String) (directory : Location) (name : String) :
    Prop where
  /-- The path has no null character. -/
  sound : path.contains '\x00' = false
  /-- The segments before the last one lead to the directory. -/
  way : ∃ before, segments path = before ++ [name] ∧ tree.walkPath before = .ok directory
  /-- The directory is one. -/
  inside : tree.find? directory = some .directory
  /-- The last segment adds something. -/
  busy : isIdle name = false
  /-- The last segment does not lead back. -/
  forward : name ≠ ".."
  /-- The last segment is not too long. -/
  fits : ¬ greatestName < name.utf8ByteSize
  /-- The place is no directory. -/
  free : tree.find? (directory ++ [name]) ≠ some .directory

/-- Without an empty string at the front there is none to be dropped. -/
theorem dropWhile_isEmpty {texts : List String} (front : texts.head? ≠ some "") :
    texts.dropWhile String.isEmpty = texts := by
  cases texts with
  | nil => rfl
  | cons text texts =>
    have filled : text.isEmpty = false := by
      rw [String.isEmpty_eq_false_iff]
      rintro rfl
      exact front rfl
    rw [List.dropWhile_cons_of_neg (by simp [filled])]

/-- The place that a path gives to a file is that of a name in a directory. -/
theorem places_of_placeOf {path : String} {place : Location}
    (placed : tree.placeOf path = .ok place) :
    ∃ directory name, place = directory ++ [name] ∧ tree.Places path directory name := by
  cases sound : path.contains '\x00' with
  | true =>
    rw [placeOf, if_pos sound] at placed
    contradiction
  | false =>
    simp only [placeOf, sound, Bool.false_eq_true, if_false] at placed
    cases named : (segments path).reverse.dropWhile String.isEmpty with
    | nil =>
      simp only [named] at placed
      split at placed <;> contradiction
    | cons name before =>
      simp only [named] at placed
      rw [bind_eq_ok] at placed
      obtain ⟨directory, walked, placed⟩ := placed
      split at placed
      · next inside =>
        split_ifs at placed with back long slash taken
        obtain rfl := Except.ok.inj placed
        rw [dropWhile_isEmpty slash] at named
        rw [not_or] at back
        refine ⟨directory, name, rfl, ⟨sound, ⟨before.reverse, ?_, walked⟩, inside, ?_, back.2,
          long, fun isDirectory => taken (by rw [isDirectory]; rfl)⟩⟩
        · rw [← List.reverse_reverse (segments path), named, List.reverse_cons]
        · have filled : name ≠ "" := by
            rintro rfl
            exact slash (by rw [named]; rfl)
          simp [isIdle, filled, back.1]
      · contradiction

/-- A path gives to a file the place of a name in a directory, if it ends with that name. -/
theorem placeOf_of_places {path : String} {directory : Location} {name : String}
    (places : tree.Places path directory name) :
    tree.placeOf path = .ok (directory ++ [name]) := by
  obtain ⟨sound, ⟨before, split, walked⟩, inside, busy, forward, fits, free⟩ := places
  have filled : name ≠ "" := by
    rintro rfl
    contradiction
  have notDot : name ≠ "." := by
    rintro rfl
    contradiction
  have reversed : (segments path).reverse = name :: before.reverse := by simp [split]
  have named : (segments path).reverse.dropWhile String.isEmpty = name :: before.reverse := by
    rw [reversed]
    exact dropWhile_isEmpty (by simpa using filled)
  have unclaimed : (tree.find? (directory ++ [name])).any Entry.isDirectory = false := by
    cases stands : tree.find? (directory ++ [name]) with
    | none => rfl
    | some entry =>
      cases entry with
      | file content => rfl
      | directory => exact absurd stands free
  have front : (segments path).reverse.head? ≠ some "" := by
    rw [reversed]
    simpa using filled
  simp only [placeOf, sound, Bool.false_eq_true, if_false, named, List.reverse_reverse]
  rw [bind_eq_ok]
  refine ⟨directory, walked, ?_⟩
  simp only [inside, notDot, forward, or_self, fits, front, unclaimed, Bool.false_eq_true, if_false]

/-- A path that does not start with an empty segment leads from the working directory. -/
theorem walkPath_relative (tree : FileTree) {segments : List String}
    (relative : segments.head? ≠ some "") :
    tree.walkPath segments = tree.walk tree.home segments := by
  rw [walkPath]
  rintro rest rfl
  exact relative rfl

/-- A walk along a path and a name is a walk along the path and then a step. -/
theorem walkPath_append (tree : FileTree) (before : List String) {name : String}
    (filled : name ≠ "") :
    tree.walkPath (before ++ [name]) =
      tree.walkPath before >>= fun directory => tree.walk directory [name] := by
  by_cases root : before.head? = some ""
  · obtain ⟨rest, rfl⟩ := List.head?_eq_some_iff.mp root
    exact walk_append tree [] rest [name]
  · have whole : (before ++ [name]).head? ≠ some "" := by
      cases before with
      | nil => simp [filled]
      | cons first rest => exact root
    rw [walkPath_relative tree whole, walkPath_relative tree root]
    exact walk_append tree tree.home before [name]

/-- A path to a directory leads there in every tree with the same directories. -/
theorem walkPath_of_directories (home : after.home = tree.home)
    (kept : ∀ location, tree.find? location = some .directory →
      after.find? location = some .directory) {segments : List String} {goal : Location}
    (walked : tree.walkPath segments = .ok goal) (ends : tree.find? goal = some .directory) :
    after.walkPath segments = .ok goal := by
  by_cases root : segments.head? = some ""
  · obtain ⟨rest, rfl⟩ := List.head?_eq_some_iff.mp root
    exact walk_of_directories kept walked ends
  · rw [walkPath_relative _ root] at walked ⊢
    rw [home]
    exact walk_of_directories kept walked ends

/-- A text in a file is what is read from a path that leads there. -/
theorem read_of_locate {path : String} {place : Location} (located : tree.locate path = .ok place)
    {text : String} (there : tree.find? place = some (.file text.toUTF8)) :
    tree.read path = .ok text := by
  have decoded : String.fromUTF8? text.toUTF8 = some text := dif_pos text.isValidUTF8
  simp only [read, located, bind, Except.bind, there, decoded]

/-- A path leads to the place that it gave to a file, in every tree with the same directories and
something at the place. -/
theorem locate_of_places {path : String} {directory : Location} {name : String}
    (places : tree.Places path directory name) (home : after.home = tree.home)
    (kept : ∀ location, tree.find? location = some .directory →
      after.find? location = some .directory)
    (taken : (after.find? (directory ++ [name])).isSome = true) :
    after.locate path = .ok (directory ++ [name]) := by
  obtain ⟨sound, ⟨before, split, walked⟩, inside, busy, forward, fits, -⟩ := places
  have filled : name ≠ "" := by
    rintro rfl
    contradiction
  have nonempty : path.isEmpty = false := by
    rw [String.isEmpty_eq_false_iff]
    rintro rfl
    have single : segments "" = [""] := by decide
    rw [single] at split
    have same : ([] ++ [""] : List String) = before ++ [name] := split
    exact filled (List.singleton_inj.mp (List.append_inj_right' same rfl)).symm
  have last : after.walk directory [name] = .ok (directory ++ [name]) := by
    have stepped : after.step directory name = .ok (directory ++ [name]) := by
      simp [step, kept _ inside, busy, forward, fits, taken]
    rw [walk_cons, stepped]
    rfl
  rw [locate, if_neg (by simp [nonempty]), if_neg (by simp [sound]), split,
    walkPath_append after before filled, walkPath_of_directories home kept walked inside]
  exact last

/-- A file at the place that a path gave to it is what is read from the path, in every tree with
the same directories. -/
theorem read_of_places {path : String} {directory : Location} {name : String}
    (places : tree.Places path directory name) (home : after.home = tree.home)
    (kept : ∀ location, tree.find? location = some .directory →
      after.find? location = some .directory) {text : String}
    (written : after.find? (directory ++ [name]) = some (.file text.toUTF8)) :
    after.read path = .ok text :=
  read_of_locate (locate_of_places places home kept (by rw [written]; rfl)) written

/-- A file that was moved stands at the place that the path gave to it, and no directory is gone. -/
theorem rename_eq_ok {source : Location} (below : source ≠ []) {content : ByteArray}
    (stands : tree.find? source = some (.file content)) {path : String}
    (renamed : tree.rename source path = .ok after) :
    ∃ directory name, tree.Places path directory name ∧ after.home = tree.home ∧
      (∀ location, tree.find? location = some .directory →
        after.find? location = some .directory) ∧
      after.find? (directory ++ [name]) = some (.file content) := by
  obtain ⟨place, placed, moved⟩ := bind_eq_ok.mp renamed
  obtain ⟨directory, name, rfl, places⟩ := places_of_placeOf placed
  simp only [stands, Except.ok.injEq] at moved
  have below' : directory ++ [name] ≠ [] := by simp
  have standing (location : Location) := find?_insert (tree.erase source) below' (.file content)
    location
  simp only [moved, find?_erase tree below] at standing
  refine ⟨directory, name, places, moved ▸ rfl, fun location there => ?_, ?_⟩
  -- Neither the place nor the file that was moved was a directory.
  · have elsewhere : location ≠ directory ++ [name] := by
      rintro rfl
      exact places.free there
    have other : location ≠ source := by
      rintro rfl
      simp [stands] at there
    rw [standing, if_neg elsewhere, if_neg other, there]
  · rw [standing, if_pos rfl]

/-- A temporary file does not stand at the root. -/
theorem createTemporary_ne_root {directory : String} {temporary : Location} {created : FileTree}
    (made : tree.createTemporary directory = .ok (temporary, created)) : temporary ≠ [] := by
  unfold createTemporary at made
  split at made
  · simp at made
  · obtain ⟨rfl, -⟩ := Prod.mk.inj (Except.ok.inj made)
    simp

/-- A file that was replaced stands where its path leads: the way there is through directories that
were there before its temporary file was moved. -/
theorem replace_eq_ok {path : String} {content : ByteArray}
    (replaced : tree.replace path content = (.ok (), after)) :
    ∃ (written : FileTree) (directory : Location) (name : String),
      written.Places path directory name ∧ after.home = written.home ∧
      (∀ location, written.find? location = some .directory →
        after.find? location = some .directory) ∧
      after.find? (directory ++ [name]) = some (.file content) := by
  unfold replace at replaced
  split at replaced
  · simp at replaced
  · next temporary created made =>
    have below := createTemporary_ne_root made
    let written := (created.erase temporary).insert temporary (.file content)
    have stands : written.find? temporary = some (.file content) := by
      rw [find?_insert _ below, if_pos rfl]
    cases renamed : written.rename temporary path with
    | error e => simp [written, renamed] at replaced
    | ok moved =>
      obtain rfl : moved = after := by simpa [written, renamed] using replaced
      exact ⟨written, rename_eq_ok below stands renamed⟩

/-- What was written is what is read. -/
theorem read_of_replace {path text : String}
    (replaced : tree.replace path text.toUTF8 = (.ok (), after)) : after.read path = .ok text := by
  obtain ⟨written, directory, name, places, home, kept, there⟩ := replace_eq_ok replaced
  exact read_of_places places home kept there

end FileTree

end Concord.Files
