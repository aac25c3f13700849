import VulkanGen.Artifact.Delivery
import VulkanGen.Proofs.Disk.Files

/-!
# Deliveries that fail

A delivery on a disk that fails leaves every file as it was.  Up to the moves this
is plain, since only directories and staged files come about.  The moves are
taken back one by one: when the rest of the moves has failed and has been taken
back, the disk has the files it had right after the first move, and what the first
move replaced is put back at the same location.  That two artifacts may have one
destination is no special case of this.

## Key results

* `restore_keeps`  a move that is taken back
* `moveAll_keeps_of_error`  all moves, whichever of them fails
* `deliver_keeps_of_error`  the whole delivery
-/

namespace VulkanGen.Artifact

open Disk

variable {d d' : Disk} {others : List (Nat × ByteArray)} {files : List StagedFile}
  {directory : Path} {err : DeliveryError}

/-! ### Operations of a disk as steps of a command -/

/-- The second step of a command starts with the result and the disk of the first. -/
theorem exists_of_run_bind {α β : Type} {x : StateM Disk α} {f : α → StateM Disk β}
    {result : β × Disk} (h : (x >>= f).run d = result) :
    ∃ a d₁, x.run d = (a, d₁) ∧ (f a).run d₁ = result :=
  ⟨_, _, rfl, h⟩

/-! ### Before the moves -/

/-- Checking destinations changes nothing. -/
theorem checkAll_unchanged {paths : List Path} {result : Except DeliveryError Unit}
    (h : (checkAll paths : StateM Disk _).run d = (result, d')) : d' = d := by
  induction paths with
  | nil =>
    cases h
    rfl
  | cons path rest ih =>
    obtain ⟨status, d₁, hstatus, h⟩ := exists_of_run_bind h
    cases hstatus
    -- only a destination that passes is followed by further checks
    split at h
    · cases h
      rfl
    · cases h
      rfl
    · exact ih h
    · exact ih h

/-- Staging an artifact keeps the files, and what is held afterwards is the staged file,
if there is one. -/
private theorem stage_keeps_holds {a : Artifact} {result : Except DeliveryError StagedFile}
    (hd : d.Holds others files) (h : (a.stage directory : StateM Disk _).run d = (result, d')) :
    d.KeepsFiles d' ∧ d'.Holds others (result.toOption.toList ++ files) := by
  obtain ⟨staged, d₁, hstage, h⟩ := exists_of_run_bind h
  have hkeeps := stage_keeps hstage
  cases staged with
  -- without a file to fill, nothing has changed
  | error e =>
    cases stage_error hstage
    cases h
    exact ⟨hkeeps, hd⟩
  | ok file =>
    -- a file that cannot be filled is discarded again
    obtain ⟨filled, d₂, hfill, h⟩ := exists_of_run_bind h
    have hheld := (hd.stage hstage).fill List.mem_cons_self hfill
    have hkeeps₂ := hkeeps.trans (fill_keeps hfill)
    cases filled with
    | error e =>
      cases h
      exact ⟨hkeeps₂.trans (discard_keeps d₂ file), hheld.discard⟩
    | ok u =>
      cases h
      exact ⟨hkeeps₂, hheld⟩

/-- Staging artifacts keeps the files, and what is held afterwards are all staged files,
or none if one of them failed. -/
theorem stageAll_keeps_holds {artifacts : List Artifact}
    {result : Except DeliveryError (List (StagedFile × Path))} (hd : d.Holds others files)
    (h : (stageAll directory artifacts : StateM Disk _).run d = (result, d')) :
    d.KeepsFiles d' ∧ d'.Holds others ((result.toOption.getD []).map (·.1) ++ files) := by
  induction artifacts generalizing d d' files result with
  | nil =>
    cases h
    exact ⟨.refl d, hd⟩
  | cons a rest ih =>
    obtain ⟨staged, d₁, hstage, h⟩ := exists_of_run_bind h
    obtain ⟨hkeeps, hheld⟩ := stage_keeps_holds hd hstage
    cases staged with
    | error e =>
      cases h
      exact ⟨hkeeps, hheld⟩
    | ok file =>
      obtain ⟨stagedRest, d₂, hrest, h⟩ := exists_of_run_bind h
      -- the rest may fail, and then this file is discarded as well
      obtain ⟨hkeepsRest, hheldRest⟩ := ih hheld hrest
      have hkeeps₂ := hkeeps.trans hkeepsRest
      cases stagedRest with
      | error e =>
        cases h
        exact ⟨hkeeps₂.trans (discard_keeps d₂ file), hheldRest.discard⟩
      | ok placed =>
        cases h
        -- the files are listed newest first, and here they are in order
        exact ⟨hkeeps₂, hheldRest.mono fun _ => List.perm_middle.mem_iff.1⟩

/-- Every staged file goes to the destination of its artifact. -/
private theorem stageAll_destinations {placed : List (StagedFile × Path)}
    {artifacts : List Artifact}
    (h : (stageAll directory artifacts : StateM Disk _).run d = (.ok placed, d')) :
    placed.map (·.2) = artifacts.map (destination directory) := by
  induction artifacts generalizing d d' placed with
  | nil =>
    cases h
    rfl
  | cons a rest ih =>
    obtain ⟨staged, d₁, -, h⟩ := exists_of_run_bind h
    -- where one artifact cannot be staged, there is no list to speak of
    cases staged with
    | error e => exact nomatch h
    | ok file =>
      obtain ⟨stagedRest, d₂, hrest, h⟩ := exists_of_run_bind h
      cases stagedRest with
      | error e => exact nomatch h
      | ok placedRest =>
        cases h
        simp only [List.map_cons, ih hrest]

/-! ### The moves -/

/-- Discarding staged files keeps the files. -/
private theorem discardAll_keeps (placed : List (StagedFile × Path)) (d : Disk) :
    d.KeepsFiles ((discardAll placed : StateM Disk Unit).run d).2 := by
  induction placed generalizing d with
  | nil => exact .refl d
  | cons head rest ih => exact (discard_keeps d head.1).trans (ih _)

/-- No staged file is held any more when all have been discarded. -/
private theorem discardAll_holds {placed : List (StagedFile × Path)}
    (hd : d.Holds others (placed.map (·.1) ++ files)) :
    ((discardAll placed : StateM Disk Unit).run d).2.Holds others files := by
  induction placed generalizing d with
  | nil => exact hd
  | cons head rest ih => exact ih hd.discard

/-- Restoring does not touch staged files. -/
private theorem restore_staged (d : Disk) (p : Path) (previous : Option ByteArray) :
    ((restore p previous : StateM Disk Unit).run d).2.staged = d.staged := by
  cases previous with
  | none => exact remove_staged d p
  | some contents => exact write_staged d p contents

/-- Where the files are those after a move, restoring its destination brings the files
from before the move. -/
theorem restore_keeps {file : StagedFile} {p : Path} {d₁ d₂ : Disk} (hp : d.Restorable p)
    (hmove : d.move file p = (.ok (), d₁)) (hkeeps : d₁.KeepsFiles d₂) :
    d.KeepsFiles ((restore p (d.read p).toOption : StateM Disk Unit).run d₂).2 := by
  obtain ⟨loc, contents, -, hloc, hnode, rfl⟩ := move_ok hmove
  -- Discarding the staged file has no effect on what stands where.
  have hput : (d.put loc (.file contents false)).KeepsFiles d₂ :=
    (discard_keeps _ file).trans hkeeps
  have hroot := ne_nil_of_not_directory hnode
  have hfile : d₂.fileAt? loc = some contents := by
    rw [hput.files, fileAt?_put_file d contents false hroot, if_pos rfl]
  obtain ⟨readOnly, hnode₂⟩ := exists_node?_of_fileAt? hfile
  -- The directories from before the move are there, so the path leads to the same place.
  have hdirs (other : Location) (hdir : d.node? other = some .directory) :
      d₂.node? other = some .directory := by
    have h : other ≠ loc := fun h => hnode (h ▸ hdir)
    exact hput.directories other (by rw [node?_put _ _ _ hroot, if_neg h, hdir])
  have hloc₂ := locate_of_directories hdirs hloc
  have hp₂ : d₂.Restorable p := hp.of_refuses hput.refuses
  rw [toOption_read hp.read hloc hnode]
  -- a file that was there is written again, and one that was not is removed
  cases hprevious : d.fileAt? loc with
  | none =>
    have hrun : ((restore p none : StateM Disk Unit).run d₂).2 = d₂.erase loc :=
      remove_eq_erase hp₂.remove hloc₂ hnode₂
    rw [hrun]
    exact keepsFiles_erase hnode hput hprevious
  | some previous =>
    obtain ⟨flag, hwrite⟩ := write_eq_put hp₂.write hloc₂ (by simp [hnode₂]) previous
    have hrun : ((restore p (some previous) : StateM Disk Unit).run d₂).2 =
        d₂.put loc (.file previous flag) := hwrite
    rw [hrun]
    exact keepsFiles_put_back hnode hput hprevious flag

/-- A failure of any move, after however many of them, leaves the files as they were. -/
theorem moveAll_keeps_of_error {placed : List (StagedFile × Path)}
    (hplaced : ∀ entry ∈ placed, d.Restorable entry.2)
    (h : (moveAll placed : StateM Disk _).run d = (.error err, d')) : d.KeepsFiles d' := by
  induction placed generalizing d d' err with
  | nil => exact nomatch h
  | cons head rest ih =>
    obtain ⟨file, p⟩ := head
    obtain ⟨previous, d₀, hread, h⟩ := exists_of_run_bind h
    cases hread
    obtain ⟨moved, d₁, hmove, h⟩ := exists_of_run_bind h
    cases moved with
    | error e =>
      -- this move failed and changed nothing, so only staged files are discarded
      cases move_error hmove
      cases h
      exact discardAll_keeps ((file, p) :: rest) d
    | ok u =>
      -- what can be restored does not change with a move
      have hrefuses : d₁.refuses = d.refuses := by
        obtain ⟨loc, contents, -, -, -, rfl⟩ := move_ok hmove
        rfl
      obtain ⟨movedRest, d₂, hrest, h⟩ := exists_of_run_bind h
      cases movedRest with
      | ok u => exact nomatch h
      | error e =>
        -- The rest has failed and brings back the files from right after this move.
        have hkeeps := ih (fun entry hmem =>
          (hplaced entry (List.mem_cons_of_mem _ hmem)).of_refuses hrefuses) hrest
        cases h
        exact restore_keeps (hplaced _ List.mem_cons_self) hmove hkeeps

/-- However the moves end, none of their staged files is left. -/
theorem moveAll_holds {placed : List (StagedFile × Path)} {result : Except DeliveryError Unit}
    (hd : d.Holds others (placed.map (·.1) ++ files))
    (h : (moveAll placed : StateM Disk _).run d = (result, d')) : d'.Holds others files := by
  induction placed generalizing d d' result with
  | nil =>
    cases h
    exact hd
  | cons head rest ih =>
    obtain ⟨file, p⟩ := head
    obtain ⟨previous, d₀, hread, h⟩ := exists_of_run_bind h
    cases hread
    obtain ⟨moved, d₁, hmove, h⟩ := exists_of_run_bind h
    cases moved with
    | error e =>
      -- a move that fails leaves its own file and all later ones to be discarded
      have hdiscarded :
          ((discardAll ((file, p) :: rest) : StateM Disk Unit).run d).2.Holds others files :=
        discardAll_holds hd
      cases move_error hmove
      cases h
      exact hdiscarded
    | ok u =>
      -- a move that succeeds gives up its own file
      have hd₁ : d₁.Holds others (rest.map (·.1) ++ files) := by
        obtain ⟨loc, contents, -, -, -, rfl⟩ := move_ok hmove
        exact (hd.of_staged rfl).discard
      obtain ⟨movedRest, d₂, hrest, h⟩ := exists_of_run_bind h
      have hd₂ := ih hd₁ hrest
      cases movedRest with
      | ok u =>
        cases h
        exact hd₂
      | error e =>
        cases h
        -- restoring touches no staged file
        exact hd₂.of_staged (restore_staged d₂ p _)

/-! ### The whole delivery -/

/-- A delivery that fails leaves the files as they were and no staged file. -/
theorem deliver_keeps_of_error {artifacts : List Artifact}
    (hdest : ∀ a ∈ artifacts, d.Restorable (a.destination directory))
    (h : (deliver directory artifacts : StateM Disk _).run d = (.error err, d')) :
    d.KeepsFiles d' ∧ d'.Holds d.staged [] := by
  -- the steps are peeled off one by one; the first one that fails decides
  obtain ⟨made, d₁, hmade, h⟩ := exists_of_run_bind h
  obtain ⟨hkeeps₁, hstaged⟩ := makeDirectories_keeps hmade
  have hheld₁ := (holds_self d).of_staged hstaged
  cases made with
  | error e =>
    cases h
    exact ⟨hkeeps₁, hheld₁⟩
  | ok u =>
    obtain ⟨checked, d₂, hcheck, h⟩ := exists_of_run_bind h
    -- the checks only read, so the disk is still the one with the directories
    cases checkAll_unchanged hcheck
    cases checked with
    | error e =>
      cases h
      exact ⟨hkeeps₁, hheld₁⟩
    | ok u =>
      obtain ⟨staged, d₃, hstage, h⟩ := exists_of_run_bind h
      obtain ⟨hkeeps₃, hheld₃⟩ := stageAll_keeps_holds hheld₁ hstage
      have hkeeps := hkeeps₁.trans hkeeps₃
      cases staged with
      | error e =>
        cases h
        exact ⟨hkeeps, hheld₃⟩
      | ok placed =>
        obtain ⟨moved, d₄, hmove, h⟩ := exists_of_run_bind h
        cases moved with
        -- with all moves made, the delivery does not fail
        | ok u => exact nomatch h
        | error e =>
          -- What can be restored at the start can be restored here: nothing new is refused.
          have hplaced (entry : StagedFile × Path) (hmem : entry ∈ placed) :
              d₃.Restorable entry.2 := by
            have hpath : entry.2 ∈ artifacts.map (destination directory) :=
              stageAll_destinations hstage ▸ List.mem_map_of_mem hmem
            obtain ⟨a, ha, heq⟩ := List.mem_map.1 hpath
            exact heq ▸ (hdest a ha).of_refuses hkeeps.refuses
          cases h
          exact ⟨hkeeps.trans (moveAll_keeps_of_error hplaced hmove), moveAll_holds hheld₃ hmove⟩

end VulkanGen.Artifact
