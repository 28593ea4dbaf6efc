import Concord.Proofs.Files.Parent

/-!
# Replacing a file on a host that may refuse

A host can refuse every action of a replacement: to create the temporary file, to write its content,
of which a part may be in the file by then, and to move it. Whatever the host does, either the
content stands at the place that the path gives to the file and nothing else has changed, or the
tree is what it was: the name of the temporary file is new, so that taking the file away again
restores the tree.
-/

namespace Concord.Files

/-- What a host refuses, and why. -/
structure Host where
  /-- To create a file at a location. -/
  creation : Location → Option FileError
  /-- To write a content into a file; the part of it that is in the file nevertheless. -/
  writing : Location → ByteArray → Option (FileError × ByteArray)
  /-- To move a file to the place that a path gives to it. -/
  moving : Location → String → Option FileError

/-- The host that refuses nothing. -/
def Host.willing : Host := ⟨fun _ => none, fun _ _ => none, fun _ _ => none⟩

namespace FileTree

/-- Replaces the file that a path names, or creates it, on a host. What is refused before the file
is moved is told with the path of the temporary file. -/
def replaceOn (host : Host) (tree : FileTree) (path : String) (content : ByteArray) :
    Except ReplaceError Unit × FileTree :=
  match tree.createTemporary (parent path) with
  | .error e => (.error e, tree)
  | .ok (temporary, created) =>
    match host.creation temporary with
    | some e => (.error (.create e (tree.temporaryPath (parent path))), tree)
    | none =>
      match host.writing temporary content with
      | some (e, part) =>
        let partly := (created.erase temporary).insert temporary (.file part)
        (.error (.create e (tree.temporaryPath (parent path))), partly.erase temporary)
      | none =>
        let written := (created.erase temporary).insert temporary (.file content)
        match host.moving temporary path with
        | some e => (.error (.persist e), written.erase temporary)
        | none =>
          match written.rename temporary path with
          | .error e => (.error (.persist e), written.erase temporary)
          | .ok renamed => (.ok (), renamed)

/-- Without refusals a file is replaced as it is in a tree. -/
theorem replaceOn_willing (tree : FileTree) (path : String) (content : ByteArray) :
    tree.replaceOn .willing path content = tree.replace path content := by
  rw [replaceOn, replace]
  cases tree.createTemporary (parent path) with
  | error e => rfl
  | ok made =>
    obtain ⟨temporary, created⟩ := made
    let written := (created.erase temporary).insert temporary (.file content)
    cases moved : written.rename temporary path with
    | error e => simp only [Host.willing, written, moved]
    | ok renamed => simp only [Host.willing, written, moved]

/-- The access to the files of a tree on a host. -/
def accessOn (host : Host) : FileAccess (StateM FileTree) where
  read path := do return (← get).read path
  replace path text := do
    let (result, tree) := (← get).replaceOn host path text.toUTF8
    set tree
    return result

/-- Without refusals files are accessed as they are in a tree. -/
theorem accessOn_willing : accessOn .willing = access := by
  simp only [accessOn, access, replaceOn_willing]

variable {tree other : FileTree}

section Fresh

/-- The greatest of some sizes is as great as each of them. -/
theorem le_foldl_max {α : Type} (size : α → Nat) (items : List α) (least : Nat) :
    least ≤ items.foldl (fun length item => max length (size item)) least ∧
      ∀ item ∈ items, size item ≤ items.foldl (fun length item => max length (size item)) least := by
  induction items generalizing least with
  | nil => simp
  | cons first rest ih =>
    obtain ⟨above, all⟩ := ih (max least (size first))
    rw [List.foldl_cons, List.forall_mem_cons]
    exact ⟨by omega, by omega, all⟩

/-- Nothing in the tree bears the fresh name. -/
theorem ne_freshName (tree : FileTree) (directory : Location) :
    ∀ item ∈ tree.entries, item.1 ≠ directory ++ [tree.freshName] := by
  intro item there same
  have bound := (le_foldl_max (fun item : Location × Entry =>
    (item.1.getLast?.map String.length).getD 0) tree.entries 0).2 item there
  have last : item.1.getLast? = some tree.freshName := by rw [same, List.getLast?_concat]
  have longer : tree.freshName.length = 4 + tree.entries.foldl
      (fun length item => max length ((item.1.getLast?.map String.length).getD 0)) 0 := by
    have prefixed : ".tmp".length = 4 := by decide
    simp only [freshName, String.length_append, String.length_ofList, List.length_replicate,
      prefixed]
  rw [last, Option.map_some, Option.getD_some] at bound
  omega

/-- Nothing is taken away where nothing is. -/
theorem erase_of_ne {place : Location} (new : ∀ item ∈ tree.entries, item.1 ≠ place) :
    tree.erase place = tree := by
  have kept : tree.entries.filter (fun item => item.1 ≠ place) = tree.entries :=
    List.filter_eq_self.mpr fun item there => decide_eq_true (new item there)
  rw [erase, kept]

/-- What was put somewhere is taken away with everything else there. -/
theorem erase_insert (tree : FileTree) (place : Location) (entry : Entry) :
    (tree.insert place entry).erase place = tree.erase place := by
  have gone : ((place, entry) :: tree.entries).filter (fun item => item.1 ≠ place) =
      tree.entries.filter fun item => item.1 ≠ place :=
    List.filter_cons_of_neg (by simp)
  rw [erase, erase, insert, gone]

end Fresh

section Placing

/-- A path gives the same place in trees with the same directories. -/
theorem Places.of_directories {path name : String} {directory : Location}
    (places : tree.Places path directory name) (home : other.home = tree.home)
    (same : ∀ location,
      tree.find? location = some .directory ↔ other.find? location = some .directory) :
    other.Places path directory name where
  sound := places.sound
  way := by
    obtain ⟨before, split, walked⟩ := places.way
    exact ⟨before, split,
      walkPath_of_directories home (fun location => (same location).mp) walked places.inside⟩
  inside := (same directory).mp places.inside
  busy := places.busy
  forward := places.forward
  fits := places.fits
  free taken := places.free ((same _).mpr taken)

/-- A file put where nothing was does not change the places that paths give. -/
theorem placeOf_insert {source : Location} (below : source ≠ [])
    (new : ∀ item ∈ tree.entries, item.1 ≠ source) (content : ByteArray) {path : String}
    {place : Location} :
    (tree.insert source (.file content)).placeOf path = .ok place ↔
      tree.placeOf path = .ok place := by
  have nothing : tree.find? source = none := by
    rw [find?, if_neg below, List.lookup_eq_none_iff]
    exact fun item there => bne_iff_ne.mpr (new item there).symm
  have same (location : Location) : tree.find? location = some .directory ↔
      (tree.insert source (.file content)).find? location = some .directory := by
    rw [find?_insert tree below]
    by_cases here : location = source
    · rw [if_pos here, here]
      simp [nothing]
    · rw [if_neg here]
  constructor
  · intro placed
    obtain ⟨directory, name, rfl, places⟩ := places_of_placeOf placed
    exact placeOf_of_places (places.of_directories rfl fun location => (same location).symm)
  · intro placed
    obtain ⟨directory, name, rfl, places⟩ := places_of_placeOf placed
    exact placeOf_of_places (places.of_directories rfl same)

end Placing

section Replacing

/-- A new file that is moved leaves the tree with that file at its place. -/
theorem rename_new {source : Location} (below : source ≠ [])
    (new : ∀ item ∈ tree.entries, item.1 ≠ source) (content : ByteArray) (path : String) :
    (∃ place, tree.placeOf path = .ok place ∧
      (tree.insert source (.file content)).rename source path =
        .ok (tree.insert place (.file content))) ∨
    ((∀ place, tree.placeOf path ≠ .ok place) ∧
      ∃ e, (tree.insert source (.file content)).rename source path = .error e) := by
  have stands : (tree.insert source (.file content)).find? source = some (.file content) := by
    rw [find?_insert tree below, if_pos rfl]
  cases placed : (tree.insert source (.file content)).placeOf path with
  | ok place =>
    refine .inl ⟨place, (placeOf_insert below new content).mp placed, ?_⟩
    simp only [rename, placed, bind, Except.bind, stands, erase_insert, erase_of_ne new]
  | error e =>
    refine .inr ⟨fun place other => ?_, e, by rw [rename, placed]; rfl⟩
    rw [(placeOf_insert below new content).mpr other] at placed
    contradiction

/-- A temporary file stands where nothing was, and without it the tree is what it was. -/
theorem createTemporary_eq_ok {directory : String} {temporary : Location} {created : FileTree}
    (made : tree.createTemporary directory = .ok (temporary, created)) :
    temporary ≠ [] ∧ (∀ item ∈ tree.entries, item.1 ≠ temporary) ∧
      created.erase temporary = tree := by
  refine ⟨createTemporary_ne_root made, ?_⟩
  unfold createTemporary at made
  split at made
  · simp at made
  · next location _ =>
    obtain ⟨rfl, rfl⟩ := Prod.mk.inj (Except.ok.inj made)
    have new := ne_freshName tree location
    exact ⟨new, by rw [erase_insert, erase_of_ne new]⟩

/-- A replacement on a host puts the content at the place that the path gives, or it fails and
leaves the tree as it was. -/
theorem replaceOn_cases (host : Host) (tree : FileTree) (path : String) (content : ByteArray) :
    (∃ place, tree.placeOf path = .ok place ∧
      tree.replaceOn host path content = (.ok (), tree.insert place (.file content))) ∨
    ∃ e, tree.replaceOn host path content = (.error e, tree) := by
  cases made : tree.createTemporary (parent path) with
  | error e => exact .inr ⟨e, by simp only [replaceOn, made]⟩
  | ok pair =>
    obtain ⟨temporary, created⟩ := pair
    obtain ⟨below, new, restored⟩ := createTemporary_eq_ok made
    have cleared (part : ByteArray) : (tree.insert temporary (.file part)).erase temporary = tree := by
      rw [erase_insert, erase_of_ne new]
    cases creation : host.creation temporary with
    | some e => exact .inr ⟨_, by simp only [replaceOn, made, creation]; rfl⟩
    | none =>
      cases writing : host.writing temporary content with
      | some refusal =>
        obtain ⟨e, part⟩ := refusal
        refine .inr ⟨.create e (tree.temporaryPath (parent path)), ?_⟩
        simp only [replaceOn, made, creation, writing, restored, cleared]
      | none =>
        cases moving : host.moving temporary path with
        | some e =>
          refine .inr ⟨.persist e, ?_⟩
          simp only [replaceOn, made, creation, writing, moving, restored, cleared]
        | none =>
          rcases rename_new below new content path with
            ⟨place, placed, moved⟩ | ⟨-, e, stayed⟩
          · refine .inl ⟨place, placed, ?_⟩
            simp only [replaceOn, made, creation, writing, moving, restored, moved]
          · refine .inr ⟨.persist e, ?_⟩
            simp only [replaceOn, made, creation, writing, moving, restored, stayed, cleared]

/-- Without refusals a file is replaced exactly when the path gives it a place. -/
theorem replace_eq_ok_iff (tree : FileTree) (path : String) (content : ByteArray) :
    (∃ after, tree.replace path content = (.ok (), after)) ↔
      ∃ place, tree.placeOf path = .ok place := by
  constructor
  · rintro ⟨after, replaced⟩
    rw [← replaceOn_willing] at replaced
    rcases replaceOn_cases .willing tree path content with ⟨place, placed, -⟩ | ⟨e, failed⟩
    · exact ⟨place, placed⟩
    · rw [failed] at replaced
      simp at replaced
  · rintro ⟨place, placed⟩
    obtain ⟨directory, name, rfl, places⟩ := places_of_placeOf placed
    have made : tree.createTemporary (parent path) = .ok (directory ++ [tree.freshName],
        tree.insert (directory ++ [tree.freshName]) (.file ByteArray.empty)) := by
      rw [createTemporary, locateDirectory_parent places]
    obtain ⟨below, new, restored⟩ := createTemporary_eq_ok made
    rcases rename_new below new content path with ⟨place, -, moved⟩ | ⟨none, -⟩
    · exact ⟨_, by simp only [replace, made, restored, moved]; rfl⟩
    · exact absurd placed (none _)

end Replacing

end FileTree

end Concord.Files
