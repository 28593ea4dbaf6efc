import Concord.Proofs.CommandLine.Run
import Concord.Proofs.Files.Atomic

/-!
# Saved reports

A report is saved whole or not at all. If it is, its text and a line break are what the file at its
path holds, and nothing else has changed. If it is not, nothing has: the file still holds what it
held before, and no temporary file is left. This is so whatever the host refuses; without refusals
the report is saved whenever its path gives a place to a file, and the temporary file was in the
directory of that place.
-/

namespace Concord.CommandLine

open Files

/-- What comes of saving a text at a path of a tree. -/
inductive SavedOrNot (tree : FileTree) (path text : String) :
    Except Failure Unit → FileTree → Prop
  /-- The file at the path holds the text, and everything else is as it was. -/
  | saved {after : FileTree} {place : Location} (placed : tree.placeOf path = .ok place)
      (home : after.home = tree.home) (reached : after.locate path = .ok place)
      (standing : ∀ location, after.find? location =
        if location = place then some (.file text.toUTF8) else tree.find? location)
      (read : after.read path = .ok text) : SavedOrNot tree path text (.ok ()) after
  /-- The failure names the path, and the tree is what it was. -/
  | unsaved (e : ReplaceError) : SavedOrNot tree path text (.error (.unsavedReport path e)) tree

/-- A text that was put at the place that a path gives is saved. -/
theorem savedOrNot_insert {tree : FileTree} {path : String} {place : Location}
    (placed : tree.placeOf path = .ok place) (text : String) :
    SavedOrNot tree path text (.ok ()) (tree.insert place (.file text.toUTF8)) := by
  obtain ⟨directory, name, rfl, places⟩ := FileTree.places_of_placeOf placed
  have below : directory ++ [name] ≠ [] := by simp
  have standing := FileTree.find?_insert tree below (.file text.toUTF8)
  have written : (tree.insert (directory ++ [name]) (.file text.toUTF8)).find?
      (directory ++ [name]) = some (.file text.toUTF8) := by
    rw [standing, if_pos rfl]
  have kept : ∀ location, tree.find? location = some .directory →
      (tree.insert (directory ++ [name]) (.file text.toUTF8)).find? location =
        some .directory := by
    intro location there
    have elsewhere : location ≠ directory ++ [name] := by
      rintro rfl
      exact places.free there
    rw [standing, if_neg elsewhere, there]
  have reached := FileTree.locate_of_places places (by exact rfl) kept (by rw [written]; rfl)
  exact .saved placed rfl reached standing (FileTree.read_of_locate reached written)

/-- On every host a report is saved whole or not at all. -/
theorem savedOrNot_saveReport (host : Host) (tree : FileTree) (path : String) (report : Report) :
    SavedOrNot tree path (report.text ++ "\n")
      (Step.on (saveReport (FileTree.accessOn host) path report) tree).1
      (Step.on (saveReport (FileTree.accessOn host) path report) tree).2 := by
  have replacing : ((FileTree.accessOn host).replace path (report.text ++ "\n")).run tree =
      tree.replaceOn host path (report.text ++ "\n").toUTF8 := by
    simp only [FileTree.accessOn, StateT.run_bind, StateT.run_get, pure_bind]
    generalize tree.replaceOn host path (report.text ++ "\n").toUTF8 = replaced
    rfl
  rcases FileTree.replaceOn_cases host tree path (report.text ++ "\n").toUTF8 with
    ⟨place, placed, replaced⟩ | ⟨e, failed⟩
  · rw [on_saveReport_of_replace (replacing.trans replaced)]
    exact savedOrNot_insert placed (report.text ++ "\n")
  · rw [on_saveReport_of_replace (replacing.trans failed)]
    exact .unsaved e

/-- Without refusals a report is saved exactly when its path gives a place to a file. -/
theorem saveReport_eq_ok_iff {tree : FileTree} {path : String} {report : Report} :
    (∃ after, Step.on (saveReport FileTree.access path report) tree = (.ok (), after)) ↔
      ∃ place, tree.placeOf path = .ok place := by
  rw [on_saveReport, ← FileTree.replace_eq_ok_iff tree path (report.text ++ "\n").toUTF8]
  generalize tree.replace path (report.text ++ "\n").toUTF8 = replaced
  obtain ⟨result, after⟩ := replaced
  cases result <;> simp [Except.mapError]

/-- Saving a report is all or nothing, for every report, tree and path, on every host, also on one
that refuses to create the temporary file, to write it, when a part of the content may be in it, or
to move it. Either the file at the path holds the text of the report and a line break, and nothing
else has changed, or the tree is what it was and the failure names the path. A host that refuses
nothing is the one that the program runs on. There the report is saved exactly when its path gives a
place to a file; the parent of the path then leads to the directory of the place, where the
temporary file was created. -/
theorem report_saved_whole_or_not (tree : FileTree) (path : String) (report : Report) :
    (∀ host, SavedOrNot tree path (report.text ++ "\n")
      (Step.on (saveReport (FileTree.accessOn host) path report) tree).1
      (Step.on (saveReport (FileTree.accessOn host) path report) tree).2) ∧
    SavedOrNot tree path (report.text ++ "\n")
      (Step.on (saveReport FileTree.access path report) tree).1
      (Step.on (saveReport FileTree.access path report) tree).2 ∧
    FileTree.accessOn .willing = FileTree.access ∧
    ((∃ after, Step.on (saveReport FileTree.access path report) tree = (.ok (), after)) ↔
      ∃ place, tree.placeOf path = .ok place) ∧
    ∀ place, tree.placeOf path = .ok place → ∃ directory name, place = directory ++ [name] ∧
      tree.locateDirectory (parent path) = .ok directory := by
  refine ⟨fun host => savedOrNot_saveReport host tree path report, ?_,
    FileTree.accessOn_willing, saveReport_eq_ok_iff, fun place placed => ?_⟩
  · rw [← FileTree.accessOn_willing]
    exact savedOrNot_saveReport .willing tree path report
  · obtain ⟨directory, name, rfl, places⟩ := FileTree.places_of_placeOf placed
    exact ⟨directory, name, rfl, FileTree.locateDirectory_parent places⟩

/-- The report on a document without cases takes the place of a file; a host that refuses to move
it leaves that file. -/
theorem report_saved_whole_or_not_old_file :
    let tree : FileTree :=
      ⟨["work"], [(["work"], .directory), (["work", "out.json"], .file "stale".toUTF8)]⟩
    let stubborn : Host := ⟨fun _ => none, fun _ _ => none, fun _ _ => some .busy⟩
    let report := Report.ofOutcome ((Document.mk [] []).run .default)
    tree.placeOf "out.json" = .ok ["work", "out.json"] ∧
      tree.locateDirectory (parent "out.json") = .ok ["work"] ∧
      SavedOrNot tree "out.json" (report.text ++ "\n")
        (Step.on (saveReport (FileTree.accessOn stubborn) "out.json" report) tree).1
        (Step.on (saveReport (FileTree.accessOn stubborn) "out.json" report) tree).2 ∧
      ∃ after, Step.on (saveReport FileTree.access "out.json" report) tree = (.ok (), after) ∧
        after.read "out.json" = .ok (report.text ++ "\n") := by
  intro tree stubborn report
  have parts : segments "out.json" = ["out.json"] := by decide +kernel
  have placed : tree.placeOf "out.json" = .ok (["work"] ++ ["out.json"]) := by
    refine FileTree.placeOf_of_places ⟨by simp, ⟨[], parts, rfl⟩, ?_, by decide, by decide,
      by decide, ?_⟩
    · simp [tree, FileTree.find?]
    · simp [tree, FileTree.find?, List.lookup_cons]
  obtain ⟨hosts, here, -, saved, beside⟩ := report_saved_whole_or_not tree "out.json" report
  obtain ⟨directory, name, split, inside⟩ := beside _ placed
  obtain ⟨rfl, -⟩ := List.append_inj' split rfl
  obtain ⟨after, done⟩ := saved.mpr ⟨_, placed⟩
  rw [done] at here
  obtain ⟨_, _, _, _, read⟩ := here
  exact ⟨placed, inside, hosts stubborn, after, done, read⟩

end Concord.CommandLine
