import Mathlib.Data.List.Forall2
import VulkanGen.Proofs.Artifact.Rollback

/-!
# Deliveries that succeed

A delivery gives each artifact a staged file of its own, and moves these to their places
one after the other.  A move replaces what stands at its destination, and if that is an
artifact of the same delivery, then this artifact is gone.  So a location holds the last of
the artifacts that go there, and what it held before if there is none.

## Key results

* `stageAll_waiting`  every artifact waits in a staged file of its own
* `moveAll_files`, `deliver_files`  what every location holds afterwards
* `fileAfter_of_agree`, `fileAfter_of_elsewhere`  how that is read for one location
-/

namespace VulkanGen

namespace Disk

variable {d d' : Disk} {file : StagedFile} {directory : Path} {contents : ByteArray}

/-! ### What staged files hold -/

/-- Leaving out one number does not change what the others hold. -/
private theorem lookup_filter_number (staged : List (Nat × ByteArray)) {k n : Nat} (h : k ≠ n) :
    (staged.filter (·.1 != n)).lookup k = staged.lookup k := by
  induction staged with
  | nil => rfl
  | cons entry rest ih =>
    obtain ⟨key, contents⟩ := entry
    rw [List.filter_cons]
    -- an entry that is left out has the number that is not asked for
    by_cases hkey : key = n
    · have hne : (k == key) = false := by simpa [hkey] using h
      simp only [hkey, bne_self_eq_false, Bool.false_eq_true, if_false, ih]
      rw [← hkey, List.lookup_cons, hne]
    · have hkeep : (key != n) = true := by simpa using hkey
      simp only [hkeep, if_true, List.lookup_cons, ih]

/-- A staged file has the next number, and the others are as before. -/
private theorem stage_number (h : d.stage directory = (.ok file, d')) :
    file.number = d.next ∧ d'.next = d.next + 1 ∧
      ∀ k, k ≠ file.number → d'.staged.lookup k = d.staged.lookup k := by
  simp only [stage] at h
  split at h <;> cases h
  refine ⟨rfl, rfl, fun k hk => ?_⟩
  have hne : (k == d.next) = false := by simpa using hk
  rw [List.lookup_cons, hne]

/-- A staged file that is filled holds its contents, and the others are as before. -/
private theorem fill_contents (h : d.fill file contents = (.ok (), d')) :
    d'.next = d.next ∧ d'.staged.lookup file.number = some contents ∧
      ∀ k, k ≠ file.number → d'.staged.lookup k = d.staged.lookup k := by
  unfold fill at h
  split at h
  · exact nomatch h
  · cases h
    refine ⟨rfl, List.lookup_cons_self, fun k hk => ?_⟩
    have hne : (k == file.number) = false := by simpa using hk
    rw [List.lookup_cons, hne]
    exact lookup_filter_number d.staged hk

end Disk

namespace Artifact

open Disk

variable {d d' : Disk} {directory : Path} {artifacts : List Artifact}
  {placed : List (StagedFile × Path)} {loc : Location}

/-- A staged artifact waits in a file with the next number, and the others are as before. -/
private theorem stage_contents {a : Artifact} {file : StagedFile}
    (h : (a.stage directory : StateM Disk _).run d = (.ok file, d')) :
    file.number = d.next ∧ d'.next = d.next + 1 ∧
      d'.staged.lookup file.number = some a.contents.toUTF8 ∧
      ∀ k, k ≠ file.number → d'.staged.lookup k = d.staged.lookup k := by
  obtain ⟨staged, d₁, hstage, h⟩ := exists_of_run_bind h
  cases staged with
  | error e => exact nomatch h
  | ok staged =>
    obtain ⟨filled, d₂, hfill, h⟩ := exists_of_run_bind h
    cases filled with
    | error e => exact nomatch h
    | ok u =>
      cases h
      -- both operations have succeeded; filling keeps the number
      obtain ⟨hnumber, hnext, hothers⟩ := stage_number hstage
      obtain ⟨hnext', hcontents, hothers'⟩ := fill_contents hfill
      exact ⟨hnumber, hnext'.trans hnext, hcontents,
        fun k hk => (hothers' k hk).trans (hothers k hk)⟩

/-- Every artifact waits in a staged file of its own to be moved to its destination. -/
structure Waiting (d : Disk) (directory : Path) (placed : List (StagedFile × Path))
    (artifacts : List Artifact) : Prop where
  holds : List.Forall₂ (fun (entry : StagedFile × Path) a =>
    entry.2 = destination directory a ∧
      d.staged.lookup entry.1.number = some a.contents.toUTF8) placed artifacts
  distinct : (placed.map (·.1.number)).Nodup

/-- Staging artifacts makes them wait, with numbers that were not given before. -/
theorem stageAll_waiting
    (h : (stageAll directory artifacts : StateM Disk _).run d = (.ok placed, d')) :
    Waiting d' directory placed artifacts ∧ (∀ entry ∈ placed, d.next ≤ entry.1.number) ∧
      ∀ k, k < d.next → d'.staged.lookup k = d.staged.lookup k := by
  -- along the artifacts; the disk and the list change with each of them
  induction artifacts generalizing d placed with
  | nil =>
    cases h
    exact ⟨⟨.nil, List.nodup_nil⟩, fun _ hmem => (nomatch hmem), fun _ _ => rfl⟩
  | cons a rest ih =>
    obtain ⟨staged, d₁, hstage, h⟩ := exists_of_run_bind h
    cases staged with
    | error e => exact nomatch h
    | ok file =>
      obtain ⟨stagedRest, d₂, hrest, h⟩ := exists_of_run_bind h
      cases stagedRest with
      | error e => exact nomatch h
      | ok placedRest =>
        cases h
        -- the numbers go up, so no later artifact has the number of this one
        obtain ⟨hnumber, hnext, hcontents, hothers⟩ := stage_contents hstage
        obtain ⟨hwaiting, habove, hbelow⟩ := ih hrest
        rw [hnext] at habove hbelow
        refine ⟨⟨.cons ⟨rfl, ?_⟩ hwaiting.holds, ?_⟩, ?_, ?_⟩
        · -- the later artifacts leave the file of this one alone
          rw [hbelow file.number (by omega), hcontents]
        · rw [List.map_cons, List.nodup_cons]
          refine ⟨fun hmem => ?_, hwaiting.distinct⟩
          obtain ⟨entry, hentry, heq⟩ := List.mem_map.mp hmem
          have hlater := habove entry hentry
          dsimp only at heq
          omega
        · intro entry hentry
          rcases List.mem_cons.mp hentry with rfl | hentry
          · exact Nat.le_of_eq hnumber.symm
          · exact Nat.le_of_succ_le (habove entry hentry)
        · -- numbers below the first one belong to files that were there before
          intro k hk
          rw [hbelow k (by omega), hothers k (by omega)]

/-! ### Where artifacts end up -/

/-- What a location holds once artifacts went to a directory one after the other, where
it held `file` before. -/
def fileAfter (d : Disk) (directory : Path) (loc : Location) :
    List Artifact → Option ByteArray → Option ByteArray
  | [], file => file
  | a :: rest, file =>
    fileAfter d directory loc rest
      (if d.locate (a.destination directory) = .ok loc then some a.contents.toUTF8 else file)

/-- Where no artifact goes, everything stays. -/
theorem fileAfter_of_elsewhere
    (h : ∀ a ∈ artifacts, d.locate (a.destination directory) ≠ .ok loc) (file : Option ByteArray) :
    fileAfter d directory loc artifacts file = file := by
  induction artifacts with
  | nil => rfl
  | cons a rest ih =>
    rw [fileAfter, if_neg (h a List.mem_cons_self)]
    exact ih fun b hb => h b (List.mem_cons_of_mem a hb)

/-- Where artifacts go that all say the same, this is what stands there. -/
theorem fileAfter_of_agree {contents : String} (file : Option ByteArray)
    (hsome : ∃ a ∈ artifacts, d.locate (a.destination directory) = .ok loc)
    (hagree : ∀ a ∈ artifacts, d.locate (a.destination directory) = .ok loc →
      a.contents = contents) :
    fileAfter d directory loc artifacts file = some contents.toUTF8 := by
  induction artifacts generalizing file with
  | nil => exact absurd hsome (by simp)
  | cons a rest ih =>
    have hagreeRest : ∀ b ∈ rest, d.locate (b.destination directory) = .ok loc →
        b.contents = contents := fun b hb => hagree b (List.mem_cons_of_mem a hb)
    rw [fileAfter]
    -- the last artifact that goes there decides, and that may be a later one
    by_cases hrest : ∃ b ∈ rest, d.locate (b.destination directory) = .ok loc
    · exact ih _ hrest hagreeRest
    · -- no later artifact goes there, so it is the first that does
      have helsewhere : ∀ b ∈ rest, d.locate (b.destination directory) ≠ .ok loc :=
        fun b hb hloc => hrest ⟨b, hb, hloc⟩
      obtain ⟨b, hb, hloc⟩ := hsome
      rcases List.mem_cons.mp hb with rfl | hb
      · rw [fileAfter_of_elsewhere helsewhere, if_pos hloc, hagree b List.mem_cons_self hloc]
      · exact absurd hloc (helsewhere b hb)

/-- Artifacts that are both there and have one place are the same text. -/
theorem contents_eq_of_delivered {a b : Artifact}
    (ha : d.contents? (a.destination directory) = some a.contents.toUTF8)
    (hb : d.contents? (b.destination directory) = some b.contents.toUTF8)
    (hplace : d.locate (a.destination directory) = d.locate (b.destination directory)) :
    a.contents = b.contents := by
  have hsame : d.contents? (a.destination directory) = d.contents? (b.destination directory) := by
    simp only [contents?, hplace]
  rw [ha, hb] at hsame
  exact String.toByteArray_inj.mp (Option.some.inj hsame)

/-! ### The moves -/

/-- What is moved is what waits first, and the rest goes on waiting. -/
theorem Waiting.move {file : StagedFile} {p : Path} {a : Artifact} {d₁ : Disk}
    (hwaiting : Waiting d directory ((file, p) :: placed) (a :: artifacts))
    (hmove : d.move file p = (.ok (), d₁)) :
    Waiting d₁ directory placed artifacts ∧
      ∃ loc, d.locate (a.destination directory) = .ok loc ∧
        (∀ other, d.node? other = some .directory → d₁.node? other = some .directory) ∧
        ∀ other, d₁.fileAt? other =
          if other = loc then some a.contents.toUTF8 else d.fileAt? other := by
  obtain ⟨hholds, hdistinct⟩ := hwaiting
  cases hholds with
  | cons hfirst hrest =>
    obtain ⟨hpath, hcontents⟩ := hfirst
    -- what is moved is what was staged, and that is the artifact
    obtain ⟨loc, contents, hstaged, hloc, hnode, rfl⟩ := move_ok hmove
    obtain rfl : contents = a.contents.toUTF8 := Option.some.inj (hstaged.symm.trans hcontents)
    rw [List.map_cons, List.nodup_cons] at hdistinct
    have hroot := ne_nil_of_not_directory hnode
    refine ⟨⟨?_, hdistinct.2⟩, loc, hpath ▸ hloc, ?_, ?_⟩
    · -- only the number of the file that was moved is given up
      rw [List.forall₂_iff_zip] at hrest ⊢
      refine ⟨hrest.1, fun {entry b} hmem => ?_⟩
      obtain ⟨hdestination, hlookup⟩ := hrest.2 hmem
      have hne : entry.1.number ≠ file.number := fun heq =>
        hdistinct.1 (List.mem_map.mpr ⟨entry, (List.of_mem_zip hmem).1, heq⟩)
      exact ⟨hdestination, (lookup_filter_number d.staged hne).trans hlookup⟩
    · intro other hdir
      have hne : other ≠ loc := fun heq => hnode (heq ▸ hdir)
      rw [(discard_keeps _ file).directories other]
      rw [node?_put _ _ _ hroot, if_neg hne, hdir]
    · intro other
      rw [(discard_keeps _ file).files other, fileAt?_put_file d _ false hroot]

/-- Moving staged artifacts brings each to its destination, where the later ones replace the
earlier ones; nothing else changes. -/
theorem moveAll_files (hwaiting : Waiting d directory placed artifacts)
    (h : (moveAll placed : StateM Disk _).run d = (.ok (), d')) :
    (∀ other, d.node? other = some .directory → d'.node? other = some .directory) ∧
      (∀ a ∈ artifacts, ∃ loc, d'.locate (a.destination directory) = .ok loc) ∧
      ∀ other, d'.fileAt? other = fileAfter d' directory other artifacts (d.fileAt? other) := by
  induction placed generalizing d artifacts with
  | nil =>
    cases h
    cases hwaiting.holds
    exact ⟨fun _ hdir => hdir, fun _ hmem => (nomatch hmem), fun _ => rfl⟩
  | cons head rest ih =>
    obtain ⟨file, p⟩ := head
    obtain ⟨previous, d₀, hread, h⟩ := exists_of_run_bind h
    cases hread
    obtain ⟨moved, d₁, hmove, h⟩ := exists_of_run_bind h
    cases moved with
    -- a move that fails ends in an error, after the restoring
    | error e =>
      obtain ⟨_, d₂, _, h⟩ := exists_of_run_bind h
      exact nomatch h
    | ok u =>
      obtain ⟨movedRest, d₂, hrest, h⟩ := exists_of_run_bind h
      cases movedRest with
      | error e =>
        obtain ⟨_, d₃, _, h⟩ := exists_of_run_bind h
        exact nomatch h
      | ok u =>
        cases h
        -- the first file holds the first artifact
        obtain ⟨a, artifactsRest, _, _, rfl⟩ := List.forall₂_cons_left_iff.mp hwaiting.holds
        obtain ⟨hwaitingRest, loc, hloc, hdirs, hfiles⟩ := hwaiting.move hmove
        obtain ⟨hdirsRest, hlocated, hfilesRest⟩ := ih hwaitingRest hrest
        -- the directories stay, so the destination is where it was at the move
        have hdirsAll : ∀ other, d.node? other = some .directory →
            d'.node? other = some .directory := fun other hdir => hdirsRest other (hdirs other hdir)
        have hloc' := locate_of_directories hdirsAll hloc
        refine ⟨hdirsAll, ?_, fun other => ?_⟩
        · intro b hb
          rcases List.mem_cons.mp hb with rfl | hb
          · exact ⟨loc, hloc'⟩
          · exact hlocated b hb
        · -- what a place holds is decided by the later moves first, and then by this one
          rw [hfilesRest, hfiles, fileAfter, hloc']
          simp only [Except.ok.injEq, eq_comm]

/-- A delivery that succeeds brings every artifact to its destination, where the later ones
replace the earlier ones; no other file changes, and no staged file is left. -/
theorem deliver_files {paths : List Path}
    (h : (deliver directory artifacts : StateM Disk _).run d = (.ok paths, d')) :
    paths = artifacts.map (destination directory) ∧
      (∀ a ∈ artifacts, ∃ loc, d'.locate (a.destination directory) = .ok loc) ∧
      (∀ loc, d'.fileAt? loc = fileAfter d' directory loc artifacts (d.fileAt? loc)) ∧
      d'.Holds d.staged [] := by
  -- making directories, checking and staging leave every file as it was
  obtain ⟨made, d₁, hmade, h⟩ := exists_of_run_bind h
  obtain ⟨hkeeps₁, hstaged⟩ := makeDirectories_keeps hmade
  have hheld₁ := (holds_self d).of_staged hstaged
  cases made with
  | error e => exact nomatch h
  | ok u =>
    obtain ⟨checked, d₂, hcheck, h⟩ := exists_of_run_bind h
    cases checkAll_unchanged hcheck
    cases checked with
    | error e => exact nomatch h
    | ok u =>
      obtain ⟨staged, d₃, hstage, h⟩ := exists_of_run_bind h
      obtain ⟨hkeeps₃, hheld₃⟩ := stageAll_keeps_holds hheld₁ hstage
      have hkeeps := hkeeps₁.trans hkeeps₃
      -- all contents are staged by now, and nothing has been moved
      cases staged with
      | error e => exact nomatch h
      | ok placed =>
        obtain ⟨moved, d₄, hmove, h⟩ := exists_of_run_bind h
        cases moved with
        | error e => exact nomatch h
        | ok u =>
          cases h
          -- so the moves decide what the files hold
          obtain ⟨hwaiting, _, _⟩ := stageAll_waiting hstage
          obtain ⟨_, hlocated, hfiles⟩ := moveAll_files hwaiting hmove
          refine ⟨rfl, hlocated, fun loc => ?_, moveAll_holds hheld₃ hmove⟩
          rw [hfiles, hkeeps.files]

end Artifact

end VulkanGen
