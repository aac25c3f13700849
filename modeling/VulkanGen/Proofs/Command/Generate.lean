import Mathlib.Data.List.Basic
import VulkanGen.Command
import VulkanGen.Proofs.Artifact.Rollback
import VulkanGen.Proofs.Generation.Closure

/-!
# Generating without a trace

Generating into a directory either delivers all artifacts or leaves the files of
the disk as they were.  Headers are loaded and the artifacts are made before
anything is written, so a failure up to there does not touch the disk at all; from
there on the delivery takes back what it did.

Whether a destination can be read, written and removed is asked of the disk, since
no command can put back a file that it was not allowed to read.  Directories that
were made on the way may stay.

## Key results

* `loadHeaders_unchanged`  loading headers only reads
* `runGenerate_cases`  a command fails early, or ends as the delivery does
* `runGenerate_keeps_files_of_error`  whichever step fails, every file is as before
-/

namespace VulkanGen

open Artifact (exists_of_run_bind)

variable {d d' : Disk}

/-- The names of the files that are generated. -/
def Naming.fileNames (n : Naming) : List String :=
  [n.apiFile ++ ".h", n.apiFile ++ ".cpp", n.tableFile ++ ".h", n.tableFile ++ ".cpp"]

/-- The artifacts of a generation are called as the settings say. -/
theorem Generation.fileNames_of_ofHeaders {config : Config} {headers : List Header}
    {g : Generation} (h : ofHeaders config headers = .ok g) :
    g.artifacts.map (·.fileName) = config.naming.fileNames := by
  obtain ⟨table, wrappers, -, -, rfl⟩ := (ofHeaders_eq_ok_iff config headers g).1 h
  rfl

/-- Loading a header only reads. -/
private theorem Header.load_unchanged {path : Path} {result : Except LoadError Header}
    (h : (Header.load path : StateM Disk _).run d = (result, d')) : d' = d := by
  obtain ⟨present, d₁, hpresent, h⟩ := exists_of_run_bind h
  cases hpresent
  -- asking whether the header is there reads, and so does reading it, whatever they give
  split at h
  · obtain ⟨text, d₂, htext, h⟩ := exists_of_run_bind h
    obtain ⟨bytes, d₃, hbytes, htext⟩ := exists_of_run_bind htext
    cases hbytes
    cases h
    split at htext
    · cases htext
      rfl
    · split at htext <;> cases htext <;> rfl
  · cases h
    rfl

namespace Command

/-- Loading several headers only reads. -/
private theorem loadEach_unchanged {paths : List Path} {result : Except Failure (List Header)}
    (h : (loadEach paths : StateM Disk _).run d = (result, d')) : d' = d := by
  -- headers are read one after the other, and reading changes nothing
  induction paths generalizing d d' result with
  | nil =>
    cases h
    rfl
  | cons path rest ih =>
    obtain ⟨loaded, d₁, hload, h⟩ := exists_of_run_bind h
    cases Header.load_unchanged hload
    cases loaded with
    | error e =>
      cases h
      rfl
    | ok header =>
      obtain ⟨headers, d₂, hrest, h⟩ := exists_of_run_bind h
      cases h
      exact ih hrest

/-- Loading headers only reads. -/
theorem loadHeaders_unchanged {paths : List Path} {result : Except Failure (List Header)}
    (h : (loadHeaders paths : StateM Disk _).run d = (result, d')) : d' = d := by
  unfold loadHeaders at h
  split at h
  · cases h
    rfl
  · exact loadEach_unchanged h

/-- Loading headers fails because there are none or because one of them is not loaded. -/
private theorem loadHeaders_error {paths : List Path} {failure : Failure}
    (h : (loadHeaders paths : StateM Disk _).run d = (.error failure, d')) :
    failure = .noHeaders ∨ ∃ path error, failure = .loading path error := by
  unfold loadHeaders at h
  split at h
  · cases h
    exact .inl rfl
  · exact .inr (loadEach_error h)
where
  loadEach_error {d d' : Disk} {paths : List Path} {failure : Failure}
      (h : (loadEach paths : StateM Disk _).run d = (.error failure, d')) :
      ∃ path error, failure = .loading path error := by
    induction paths generalizing d d' failure with
    | nil => exact nomatch h
    | cons path rest ih =>
      obtain ⟨loaded, d₁, hload, h⟩ := exists_of_run_bind h
      cases loaded with
      | error e =>
        cases h
        exact ⟨path, e, rfl⟩
      | ok header =>
        obtain ⟨headers, d₂, hrest, h⟩ := exists_of_run_bind h
        cases headers with
        | error e =>
          cases h
          exact ih hrest
        | ok headers => exact nomatch h

/-- Generating fails without touching the disk, or ends as the delivery of a generation's
artifacts does. -/
theorem runGenerate_cases {headers : List Path} {directory : Path} {config : Config}
    {result : Except Failure String}
    (h : (runGenerate headers directory config : StateM Disk _).run d = (result, d')) :
    (∃ failure, result = .error failure ∧ (∀ error, failure ≠ .delivery error) ∧ d' = d) ∨
      ∃ loaded g outcome report, (loadHeaders headers : StateM Disk _).run d = (.ok loaded, d) ∧
        Generation.ofHeaders config loaded = .ok g ∧
        (Artifact.deliver directory g.artifacts : StateM Disk _).run d = (outcome, d') ∧
        result = (outcome.map (deliveryText directory · report)).mapError .delivery := by
  -- peeled one action at a time: loading and the clock leave the disk as it is
  obtain ⟨loading, d₁, hload, h⟩ := exists_of_run_bind h
  cases loadHeaders_unchanged hload
  cases loading with
  | error e =>
    cases h
    rcases loadHeaders_error hload with rfl | ⟨path, error, rfl⟩
    · exact .inl ⟨_, rfl, nofun, rfl⟩
    · exact .inl ⟨_, rfl, nofun, rfl⟩
  | ok loaded =>
    obtain ⟨started, d₂, hstarted, h⟩ := exists_of_run_bind h
    cases hstarted
    -- what is generated does not depend on the disk, so an error leaves it alone
    cases hg : Generation.ofHeaders config loaded with
    | error e =>
      simp only [hg] at h
      cases h
      exact .inl ⟨_, rfl, nofun, rfl⟩
    | ok g =>
      simp only [hg] at h
      obtain ⟨finished, d₃, hfinished, h⟩ := exists_of_run_bind h
      cases hfinished
      -- from here on the delivery decides, for better or worse
      obtain ⟨outcome, d₄, hdeliver, h⟩ := exists_of_run_bind h
      cases outcome with
      | error e =>
        cases h
        exact .inr ⟨loaded, g, .error e, g.report, hload, hg, hdeliver, rfl⟩
      | ok paths =>
        cases h
        exact .inr ⟨loaded, g, .ok paths, _, hload, hg, hdeliver, rfl⟩

/-- Generating fails without touching the disk, or fails to deliver the artifacts of a
generation. -/
private theorem runGenerate_error {headers : List Path} {directory : Path} {config : Config}
    {failure : Failure}
    (h : (runGenerate headers directory config : StateM Disk _).run d = (.error failure, d')) :
    ((∀ error, failure ≠ .delivery error) ∧ d' = d) ∨
      ∃ loaded g error, Generation.ofHeaders config loaded = .ok g ∧
        failure = .delivery error ∧
        (Artifact.deliver directory g.artifacts : StateM Disk _).run d = (.error error, d') := by
  rcases runGenerate_cases h with ⟨failure, heq, hother, rfl⟩ |
    ⟨loaded, g, outcome, report, -, hg, hdeliver, heq⟩
  · cases heq
    exact .inl ⟨hother, rfl⟩
  · cases outcome with
    | error e =>
      cases heq
      exact .inr ⟨loaded, g, e, hg, rfl, hdeliver⟩
    | ok paths => exact nomatch heq

/-- A command that succeeds has loaded the headers, made a generation and delivered it, and
says so. -/
theorem runGenerate_ok {headers : List Path} {directory : Path} {config : Config} {text : String}
    (h : (runGenerate headers directory config : StateM Disk _).run d = (.ok text, d')) :
    ∃ loaded g paths report, (loadHeaders headers : StateM Disk _).run d = (.ok loaded, d) ∧
      Generation.ofHeaders config loaded = .ok g ∧
      (Artifact.deliver directory g.artifacts : StateM Disk _).run d = (.ok paths, d') ∧
      text = deliveryText directory paths report := by
  rcases runGenerate_cases h with ⟨failure, heq, -, -⟩ |
    ⟨loaded, g, outcome, report, hload, hg, hdeliver, heq⟩
  · exact nomatch heq
  · cases outcome with
    | error e => exact nomatch heq
    | ok paths =>
      cases heq
      exact ⟨loaded, g, paths, report, hload, hg, hdeliver, rfl⟩

/-- **Generating fails without a trace.**  Whichever step fails, every location holds
the file that it held, or still none; a path that could be located holds what it held,
and so does any path that does not lead upwards; and no staged file is left.  A failure
before the delivery does not even make a directory. -/
theorem runGenerate_keeps_files_of_error {headers : List Path} {directory : Path}
    {config : Config} {failure : Failure}
    (hdest : ∀ name ∈ config.naming.fileNames, d.Restorable (directory.join ⟨name⟩))
    (h : (runGenerate headers directory config : StateM Disk _).run d = (.error failure, d')) :
    (∀ loc, d'.fileAt? loc = d.fileAt? loc) ∧
    (∀ p loc, d.locate p = .ok loc → d'.contents? p = d.contents? p) ∧
    (d.WellFormed → ∀ p : Path, ['.', '.'] ∉ Path.segments p.text.toList →
      d'.contents? p = d.contents? p) ∧
    (∀ staged ∈ d'.staged, staged ∈ d.staged) ∧
    ((∀ error, failure ≠ .delivery error) → d' = d) := by
  rcases runGenerate_error h with ⟨-, rfl⟩ | ⟨loaded, g, error, hg, rfl, hdeliver⟩
  · -- the delivery was not reached
    exact ⟨fun _ => rfl, fun _ _ _ => rfl, fun _ _ _ => rfl, fun _ hmem => hmem, fun _ => rfl⟩
  · -- the artifacts have the file names of the settings
    have hrestorable (a : Artifact) (ha : a ∈ g.artifacts) :
        d.Restorable (a.destination directory) := by
      have hname : a.fileName ∈ g.artifacts.map (·.fileName) := List.mem_map_of_mem ha
      rw [Generation.fileNames_of_ofHeaders hg] at hname
      exact hdest _ hname
    obtain ⟨hkeeps, hholds⟩ := Artifact.deliver_keeps_of_error hrestorable hdeliver
    -- the delivery holds nothing of its own afterwards
    have hstaged (staged : Nat × ByteArray) (hmem : staged ∈ d'.staged) : staged ∈ d.staged := by
      rcases hholds staged hmem with hmem | ⟨file, hfile, -⟩
      · exact hmem
      · exact nomatch hfile
    exact ⟨hkeeps.files, fun _ _ hloc => hkeeps.contents?_of_locate hloc,
      fun hd _ hup => hkeeps.contents?_eq hd hup, hstaged, fun hno => (hno error rfl).elim⟩

/-- A disk with a core header and one file that was generated before, on which the fourth
staged file cannot be moved. -/
def lastMoveRefused : Disk where
  entries :=
    [(["core.h"], .file coreHeader.toUTF8 false), (["out"], .directory),
      (["api.h", "out"], .file "previous".toUTF8 false)]
  staged := []
  next := 0
  refuses
    | .move ⟨_, 3⟩ _ => some .invalidArgument
    | _ => none
where
  coreHeader : String :=
    "#define VK_VERSION_1_0 1\n#ifndef VK_NO_PROTOTYPES\n" ++
    "VKAPI_ATTR void VKAPI_CALL vkGetInstanceProcAddr();\n#endif\n"

/-- Settings that give the interface and the table the same two destinations. -/
def sharedFiles : Config := { naming := { apiFile := "api", tableFile := "api" } }

/-- The destination that held a file is replaced twice before the last move fails.  It
has its first contents again, and the other destination is free again. -/
theorem runGenerate_keeps_files_of_lastMoveRefused :
    ∃ d', (runGenerate [⟨"/core.h"⟩] ⟨"/out"⟩ sharedFiles : StateM Disk _).run lastMoveRefused =
        (.error (.delivery (.moving ⟨"/out/api.cpp"⟩ .invalidArgument)), d') ∧
      d'.contents? ⟨"/out/api.h"⟩ = some "previous".toUTF8 ∧
      d'.contents? ⟨"/out/api.cpp"⟩ = none ∧ d'.staged = [] := by
  have hfails : ((runGenerate [⟨"/core.h"⟩] ⟨"/out"⟩ sharedFiles : StateM Disk _).run
      lastMoveRefused).1 = .error (.delivery (.moving ⟨"/out/api.cpp"⟩ .invalidArgument)) := by
    decide +kernel
  have hwell : lastMoveRefused.WellFormed := by decide +kernel
  -- the run is evaluated for its error alone; the rest follows from the theorem
  cases hrun : (runGenerate [⟨"/core.h"⟩] ⟨"/out"⟩ sharedFiles : StateM Disk _).run
      lastMoveRefused with
  | mk result d' =>
    rw [hrun] at hfails
    obtain rfl := hfails
    obtain ⟨-, -, hpaths, hstaged, -⟩ :=
      runGenerate_keeps_files_of_error (fun _ _ => ⟨rfl, rfl, rfl⟩) hrun
    refine ⟨d', rfl, ?_, ?_, List.eq_nil_iff_forall_not_mem.2 fun staged hmem => ?_⟩
    · exact (hpaths hwell _ (by decide)).trans (by decide +kernel)
    · exact (hpaths hwell _ (by decide)).trans (by decide +kernel)
    · exact nomatch hstaged staged hmem

end Command

end VulkanGen
