import IconForge.Proofs.Run.Build

/-!
Contract: converting writes the module, or changes no file at all.

Owns: what a conversion that fails leaves behind, and what one that succeeds
leaves behind.

Main statement: `convert_all_or_nothing`.

Does not own: when a conversion succeeds.
-/

namespace IconForge.Run

open IconForge.Files

variable {settings : Settings} {world finished : World} {fault : Fault}

/-- A conversion that fails has made directories for the module at most: there
is nothing to be written before the whole collection has been gathered. -/
theorem growsAlong_of_convert
    (failed : (convert settings).perform world = (.error fault, finished)) :
    Tree.GrowsAlong (Task.directoryPaths settings.module) world.tree finished.tree := by
  have gives := Gather.gives_gather world.tree settings.iconsDir
  unfold convert at failed
  rcases Task.perform_bind_eq_error failed with failed | ⟨collection, between, gathered, failed⟩
  · rw [gives.tree_eq failed]
    exact .refl _ _
  · have unchanged := gives.tree_eq gathered
    rcases Task.perform_bind_eq_error failed with failed | ⟨_, behind, saved, failed⟩
    · have grows := Task.growsAlong_of_save_error failed
      rwa [unchanged] at grows
    · cases failed

/-- A conversion that succeeds has written the module of the collection that
was there to be gathered, and from that file the collection is read back. -/
theorem saves_of_convert (succeeds : (convert settings).perform world = (.ok (), finished)) :
    ∃ collection place,
      (Gather.gather settings.iconsDir).Gives world.tree (.ok collection) ∧
      Tree.Saves world.tree finished.tree settings.module (Module.source collection).toUTF8
        place ∧
      readModule finished.tree settings.module = .ok collection := by
  unfold convert at succeeds
  obtain ⟨collection, between, gathered, performed⟩ := Task.perform_bind_eq_ok succeeds
  obtain ⟨_, behind, saved, told⟩ := Task.perform_bind_eq_ok performed
  have gives := Gather.gives_gather world.tree settings.iconsDir
  have unchanged := gives.tree_eq gathered
  rw [← gives.outcome_eq gathered] at gives
  obtain ⟨place, saves⟩ := Task.saves_of_save saved
  have isRead := readModule_of_save saved
  rw [unchanged] at saves
  rw [Task.tree_of_tell told]
  exact ⟨collection, place, gives, saves, isRead⟩

end IconForge.Run
