import VulkanGen.Disk

/-!
# What stays on a disk

Between two states of a disk the files may stay while directories are added.
`KeepsFiles` says so, location by location, and every operation that a failed
delivery performs is measured by it.  Since walking along a path only asks for
directories, a path that was located before is located at the same place
afterwards.

Staged files are counted apart: `Holds others open` says that a disk holds no
staged file but `others` and those numbered by `open`.

## Key results

* `KeepsFiles.contents?_eq`  a path that does not lead upwards holds what it held
* `makeDirectories_keeps`  making directories keeps every file
* `move_ok`, `move_error`  what moving a staged file does
* `keepsFiles_put_back`, `keepsFiles_erase`  how a location that was replaced is restored
-/

namespace VulkanGen.Disk

/-! ### Files -/

/-- The contents of the file at a location. -/
def fileAt? (d : Disk) (loc : Location) : Option ByteArray :=
  match d.node? loc with
  | some (.file contents _) => some contents
  | _ => none

/-- The contents of the file that a path leads to. -/
def contents? (d : Disk) (p : Path) : Option ByteArray :=
  match d.locate p with
  | .ok loc => d.fileAt? loc
  | .error _ => none

/-- Whatever stands on a disk stands in a directory. -/
def WellFormed (d : Disk) : Prop :=
  ∀ entry ∈ d.entries, (d.node? entry.1.tail).any Node.isDirectory = true

instance (d : Disk) : Decidable d.WellFormed :=
  inferInstanceAs (Decidable (∀ entry ∈ d.entries, _))

variable {d d' e : Disk} {loc other : Location} {contents : ByteArray} {readOnly : Bool}
  {p : Path}

/-- The root is a directory, so whatever is none stands below it. -/
theorem ne_nil_of_not_directory (h : d.node? loc ≠ some .directory) : loc ≠ [] := by
  rintro rfl
  exact h rfl

/-- Where nothing stands, there is no file. -/
private theorem fileAt?_eq_none (h : d.node? loc = none) : d.fileAt? loc = none := by
  simp only [fileAt?, h]

/-- Where a directory stands, there is no file. -/
private theorem fileAt?_of_directory (h : d.node? loc = some .directory) :
    d.fileAt? loc = none := by
  simp only [fileAt?, h]

/-- A location that has contents is that of a file. -/
theorem exists_node?_of_fileAt? (h : d.fileAt? loc = some contents) :
    ∃ readOnly, d.node? loc = some (.file contents readOnly) := by
  unfold fileAt? at h
  split at h
  · next bytes flag heq =>
    cases h
    exact ⟨flag, heq⟩
  · exact nomatch h

/-- A file that is put somewhere is the only one that changes. -/
theorem fileAt?_put_file (d : Disk) (contents : ByteArray) (readOnly : Bool) (hloc : loc ≠ []) :
    (d.put loc (.file contents readOnly)).fileAt? other =
      if other = loc then some contents else d.fileAt? other := by
  simp only [fileAt?, node?_put d _ other hloc]
  by_cases h : other = loc
  · simp only [h, if_true]
  · simp only [h, if_false]

/-- What is erased is gone, and every other file stays. -/
private theorem fileAt?_erase (d : Disk) (hloc : loc ≠ []) :
    (d.erase loc).fileAt? other = if other = loc then none else d.fileAt? other := by
  simp only [fileAt?, node?_erase d other hloc]
  by_cases h : other = loc
  · simp only [h, if_true]
  · simp only [h, if_false]

/-- On a well-formed disk a file or directory that is not the root stands in a directory. -/
private theorem WellFormed.node?_parent (h : d.WellFormed) {name : String}
    (hnode : d.node? (name :: loc) ≠ none) : d.node? loc = some .directory := by
  obtain ⟨node, hlookup⟩ := Option.ne_none_iff_exists'.1 hnode
  -- the entry is on the list, so what it stands in is a directory
  have hmem : (name :: loc, node) ∈ d.entries := by
    rw [node?, if_neg (by simp)] at hlookup
    obtain ⟨front, back, heq, -⟩ := List.lookup_eq_some_iff.1 hlookup
    simp only [heq, List.mem_append, List.mem_cons, true_or, or_true]
  have hparent : (d.node? loc).any Node.isDirectory = true := h _ hmem
  -- a file has nothing in it
  cases heq' : d.node? loc with
  | none => simp [heq'] at hparent
  | some parent =>
    cases parent with
    | file contents readOnly => simp [heq', Node.isDirectory] at hparent
    | directory => rfl

/-- On a well-formed disk the way to a file or directory leads through directories. -/
private theorem WellFormed.node?_suffix (h : d.WellFormed) {start : Location}
    (hnode : d.node? loc ≠ none)
    (hsuffix : start <:+ loc) (hne : start ≠ loc) : d.node? start = some .directory := by
  -- from the location upwards, as far as `start`
  induction loc with
  | nil => exact (hne (List.suffix_nil.1 hsuffix)).elim
  | cons name rest ih =>
    have hrest := h.node?_parent hnode
    rcases List.suffix_cons_iff.1 hsuffix with heq | hsuffix
    · exact (hne heq).elim
    · by_cases heq : start = rest
      · exact heq ▸ hrest
      · exact ih (by simp [hrest]) hsuffix heq

/-! ### Walking along a path -/

/-- Every step along a path starts in a directory. -/
private theorem directory_of_walk {segment : List Char} {next : Location}
    (h : d.walk loc segment = .ok next) : d.node? loc = some .directory := by
  unfold walk at h
  split at h
  · exact nomatch h
  · exact nomatch h
  · next heq => exact heq

/-- What a step leads to does not depend on the disk, if there is a directory to start in. -/
private theorem walk_eq {segment : List Char} (h : d.node? loc = some .directory)
    (h' : e.node? loc = some .directory) : e.walk loc segment = d.walk loc segment := by
  simp only [walk, h, h']

/-- A step along a path that is not `..` leads to the same place or one further down. -/
private theorem suffix_of_walk {segment : List Char} {next : Location}
    (h : d.walk loc segment = .ok next) (hup : segment ≠ ['.', '.']) : loc <:+ next := by
  have hup' : (segment == ['.', '.']) = false := by simpa using hup
  simp only [walk, directory_of_walk h, hup', Bool.false_eq_true, if_false] at h
  -- an idle segment leads nowhere else, and a name one step down
  split at h
  · cases h
    exact List.suffix_rfl
  · split at h
    · exact nomatch h
    · cases h
      exact List.suffix_cons _ _

/-- A walk is its first step and the walk from there on. -/
theorem foldlM_walk_cons {segment : List Char} {segments : List (List Char)} {start : Location} :
    (segment :: segments).foldlM d.walk start = .ok loc ↔
      ∃ next, d.walk start segment = .ok next ∧ segments.foldlM d.walk next = .ok loc := by
  rw [List.foldlM_cons]
  cases h : d.walk start segment with
  | error err => simp [bind, Except.bind]
  | ok next => simp [bind, Except.bind]

/-- A walk only asks for directories. -/
private theorem foldlM_walk_of_directories
    (hdirs : ∀ loc, d.node? loc = some .directory → e.node? loc = some .directory)
    {segments : List (List Char)} {start : Location}
    (h : segments.foldlM d.walk start = .ok loc) : segments.foldlM e.walk start = .ok loc := by
  -- the place that the walk has reached is the same on both disks
  induction segments generalizing start with
  | nil => exact h
  | cons segment segments ih =>
    -- The step was possible because a directory stands there, and it still does.
    obtain ⟨next, hwalk, hrest⟩ := foldlM_walk_cons.1 h
    have hdir := directory_of_walk hwalk
    exact foldlM_walk_cons.2 ⟨next, (walk_eq hdir (hdirs _ hdir)).trans hwalk, ih hrest⟩

/-- A walk without `..` leads to the same place or further down. -/
private theorem suffix_of_foldlM_walk {segments : List (List Char)} {start : Location}
    (h : segments.foldlM d.walk start = .ok loc) (hup : ['.', '.'] ∉ segments) :
    start <:+ loc := by
  -- no segment leads upwards, so each step only adds names
  induction segments generalizing start with
  | nil =>
    cases h
    exact List.suffix_rfl
  | cons segment segments ih =>
    obtain ⟨next, hwalk, hrest⟩ := foldlM_walk_cons.1 h
    rw [List.mem_cons, not_or] at hup
    exact (suffix_of_walk hwalk (Ne.symm hup.1)).trans (ih hrest hup.2)

/-- A path is located where a walk from the root along its segments ends. -/
theorem locate_eq_ok :
    d.locate p = .ok loc ↔
      checkPath p = .ok () ∧ p.text.toList ≠ [] ∧
        (Path.segments p.text.toList).foldlM d.walk [] = .ok loc := by
  unfold locate
  -- a path that is refused is located nowhere, and neither is the empty one
  cases checkPath p with
  | error err => simp [bind, Except.bind]
  | ok u => by_cases h : p.text.toList = [] <;> simp [bind, Except.bind, h]

/-- Where the directories stay, a path that is located stays located. -/
theorem locate_of_directories
    (hdirs : ∀ loc, d.node? loc = some .directory → e.node? loc = some .directory)
    (h : d.locate p = .ok loc) : e.locate p = .ok loc := by
  obtain ⟨hcheck, hne, hwalk⟩ := locate_eq_ok.1 h
  exact locate_eq_ok.2 ⟨hcheck, hne, foldlM_walk_of_directories hdirs hwalk⟩

/-- The last segment of a path ends as the path does. -/
private theorem segments_append_singleton {c : Char} (hc : c ≠ '/') (cs : List Char) :
    ∃ front last, Path.segments (cs ++ [c]) = front ++ [last ++ [c]] := by
  -- a character in front changes the first segment, which may be the last one too
  induction cs with
  | nil => exact ⟨[], [], by simp [Path.segments, hc]⟩
  | cons x xs ih =>
    obtain ⟨front, last, hsegments⟩ := ih
    rw [List.cons_append, Path.segments, hsegments]
    by_cases hx : (x == '/') = true
    · exact ⟨[] :: front, last, if_pos hx⟩
    · rw [if_neg hx]
      cases front with
      | nil => exact ⟨[], x :: last, rfl⟩
      | cons first rest => exact ⟨(x :: first) :: rest, last, rfl⟩

/-- A path that ends in a proper character leads to something whose name ends so. -/
theorem exists_name_of_locate {cs : List Char} {c : Char} (htext : p.text.toList = cs ++ [c])
    (hslash : c ≠ '/') (hdot : c ≠ '.') (h : d.locate p = .ok loc) :
    ∃ name rest, loc = name :: rest ∧ name.toList.getLast? = some c := by
  obtain ⟨_, _, hwalk⟩ := locate_eq_ok.1 h
  obtain ⟨front, last, hsegments⟩ := segments_append_singleton hslash cs
  rw [htext, hsegments, List.foldlM_append] at hwalk
  -- the segments in front lead somewhere, and the last one is walked from there
  cases hfront : front.foldlM d.walk [] with
  | error err =>
    rw [hfront] at hwalk
    exact nomatch hwalk
  | ok start =>
    have hstep : d.walk start (last ++ [c]) = .ok loc := by
      rw [hfront] at hwalk
      obtain ⟨next, hnext, hrest⟩ := foldlM_walk_cons.1 hwalk
      cases hrest
      exact hnext
    -- the segment is a name, since it ends neither empty nor in a dot
    have hidle : (last ++ [c] == [] || last ++ [c] == ['.']) = false := by
      cases last <;> simp [hdot]
    have hup : (last ++ [c] == ['.', '.']) = false := by
      rw [beq_eq_false_iff_ne]
      intro heq
      have hlast := congrArg List.getLast? heq
      rw [List.getLast?_concat] at hlast
      exact hdot (Option.some.inj hlast)
    simp only [walk, directory_of_walk hstep, hidle, hup, Bool.false_eq_true, if_false] at hstep
    split at hstep
    · exact nomatch hstep
    · cases hstep
      exact ⟨_, start, rfl, by rw [String.toList_ofList, List.getLast?_concat]⟩

/-! ### Disks that keep the files of an earlier one -/

/-- The files are those of an earlier disk, and its directories are still there. -/
structure KeepsFiles (d d' : Disk) : Prop where
  files : ∀ loc, d'.fileAt? loc = d.fileAt? loc
  directories : ∀ loc, d.node? loc = some .directory → d'.node? loc = some .directory
  refuses : d'.refuses = d.refuses

namespace KeepsFiles

/-- Nothing has changed. -/
theorem refl (d : Disk) : d.KeepsFiles d :=
  ⟨fun _ => rfl, fun _ h => h, rfl⟩

/-- What is kept in two steps is kept. -/
theorem trans (h : d.KeepsFiles d') (h' : d'.KeepsFiles e) : d.KeepsFiles e where
  files loc := (h'.files loc).trans (h.files loc)
  directories loc hdir := h'.directories loc (h.directories loc hdir)
  refuses := h'.refuses.trans h.refuses

/-- Only the entries and what is refused count; staged files do not. -/
private theorem of_entries (hentries : d'.entries = d.entries) (hrefuses : d'.refuses = d.refuses) :
    d.KeepsFiles d' := by
  have hnode (loc : Location) : d'.node? loc = d.node? loc := by simp only [node?, hentries]
  exact ⟨fun loc => by simp only [fileAt?, hnode], fun loc h => (hnode loc).trans h, hrefuses⟩

/-- A path that was located is located at the same place. -/
theorem locate (h : d.KeepsFiles d') (hloc : d.locate p = .ok loc) : d'.locate p = .ok loc :=
  locate_of_directories h.directories hloc

/-- A path that is located holds what it held, or still nothing. -/
theorem contents?_of_locate (h : d.KeepsFiles d') (hloc : d.locate p = .ok loc) :
    d'.contents? p = d.contents? p := by
  simp only [contents?, hloc, h.locate hloc, h.files]

/-- A path that does not lead upwards holds what it held, or still nothing, even if
it is only located because of a new directory. -/
theorem contents?_eq (h : d.KeepsFiles d') (hd : d.WellFormed)
    (hup : ['.', '.'] ∉ Path.segments p.text.toList) : d'.contents? p = d.contents? p := by
  cases hloc : d.locate p with
  | ok loc => exact h.contents?_of_locate hloc
  -- a path that is located now and was not before would show a new file
  | error err =>
    have hnone : d.contents? p = none := by simp only [contents?, hloc]
    rw [hnone, Option.eq_none_iff_forall_ne_some]
    intro contents hsome
    unfold contents? at hsome
    split at hsome
    · next loc hloc' =>
      -- The file was there before, so the way to it was there before.
      obtain ⟨hcheck, hne, hwalk⟩ := locate_eq_ok.1 hloc'
      obtain ⟨readOnly', hfile'⟩ := exists_node?_of_fileAt? hsome
      obtain ⟨readOnly, hfile⟩ := exists_node?_of_fileAt? ((h.files loc).symm.trans hsome)
      have hbefore := walk_before hd hfile hfile' hwalk hup
      rw [locate_eq_ok.2 ⟨hcheck, hne, hbefore⟩] at hloc
      exact nomatch hloc
    · exact nomatch hsome
where
  walk_before {start loc : Location} {segments : List (List Char)} {contents : ByteArray}
      {flag flag' : Bool} (hd : d.WellFormed) (hfile : d.node? loc = some (.file contents flag))
      (hfile' : d'.node? loc = some (.file contents flag'))
      (hwalk : segments.foldlM d'.walk start = .ok loc) (hup : ['.', '.'] ∉ segments) :
      segments.foldlM d.walk start = .ok loc := by
    induction segments generalizing start with
    | nil => exact hwalk
    | cons segment segments ih =>
      -- The walk goes on from here, so here is a directory and not yet the file.
      have hsuffix := suffix_of_foldlM_walk hwalk hup
      obtain ⟨next, hstep, hrest⟩ := foldlM_walk_cons.1 hwalk
      have hdir' := directory_of_walk hstep
      have hne : start ≠ loc := by
        rintro rfl
        rw [hfile'] at hdir'
        exact nomatch hdir'
      have hdir := hd.node?_suffix (by simp [hfile]) hsuffix hne
      rw [List.mem_cons, not_or] at hup
      exact foldlM_walk_cons.2 ⟨next, (walk_eq hdir' hdir).trans hstep, ih hrest hup.2⟩

end KeepsFiles

/-! ### Making directories -/

/-- A new directory takes the place of no file. -/
private theorem keepsFiles_put_directory (h : d.node? loc = none) :
    d.KeepsFiles (d.put loc .directory) := by
  have hloc := ne_nil_of_not_directory (h ▸ nofun : d.node? loc ≠ some .directory)
  refine ⟨fun other => ?_, fun other hdir => ?_, rfl⟩
  · -- at the location itself there was nothing, and now there is no file
    by_cases heq : other = loc
    · rw [heq, fileAt?_eq_none h]
      exact fileAt?_of_directory (by simp only [node?_put d _ _ hloc, if_true])
    · simp only [fileAt?, node?_put d _ _ hloc, heq, if_false]
  · rw [node?_put d _ _ hloc]
    split
    · rfl
    · exact hdir

/-- A directory is made only where nothing stands. -/
private theorem makeDirectory_eq_ok (h : d.makeDirectory p = .ok d') :
    ∃ loc, d.node? loc = none ∧ d' = d.put loc .directory := by
  unfold makeDirectory at h
  simp only [bind, Except.bind] at h
  -- Only the branches that find nothing at the location make something.
  repeat' split at h
  all_goals cases h
  all_goals exact ⟨_, ‹_›, rfl⟩

/-- Nothing but directories comes about, whether all of them are made or not. -/
private theorem makeFirst_keeps {paths : List Path} {result : Except OsError Unit}
    (h : d.makeFirst paths = (result, d')) : d.KeepsFiles d' ∧ d'.staged = d.staged := by
  have made {d₁ d₂ : Disk} {path : Path} (h : d₁.makeDirectory path = .ok d₂) :
      d₁.KeepsFiles d₂ ∧ d₂.staged = d₁.staged := by
    obtain ⟨loc, hnode, rfl⟩ := makeDirectory_eq_ok h
    exact ⟨keepsFiles_put_directory hnode, rfl⟩
  -- over the parents, from the path itself upwards
  induction paths generalizing d' result with
  | nil =>
    cases h
    exact ⟨.refl d, rfl⟩
  | cons path parents ih =>
    unfold makeFirst at h
    split at h
    · next hpath =>
      cases h
      exact made hpath
    · -- The parent is missing, so the parents are made first.
      split at h
      · next hparents =>
        cases h
        exact ih hparents
      · next hparents =>
        obtain ⟨hkeeps, hstaged⟩ := ih hparents
        split at h
        · next hpath =>
          cases h
          exact ⟨hkeeps.trans (made hpath).1, (made hpath).2.trans hstaged⟩
        · cases h
          exact ⟨hkeeps, hstaged⟩
    · -- Something stands there already, or the path is refused.
      cases h
      exact ⟨.refl d, rfl⟩

/-- Making directories keeps all files, and stages none. -/
theorem makeDirectories_keeps {result : Except OsError Unit}
    (h : d.makeDirectories p = (result, d')) : d.KeepsFiles d' ∧ d'.staged = d.staged := by
  unfold makeDirectories at h
  split at h
  · cases h
    exact ⟨.refl d, rfl⟩
  · exact makeFirst_keeps h

/-! ### Staged files -/

/-- The staged files of a disk are among these others or numbered by one of these files. -/
def Holds (d : Disk) (others : List (Nat × ByteArray)) (files : List StagedFile) : Prop :=
  ∀ staged ∈ d.staged, staged ∈ others ∨ ∃ file ∈ files, staged.1 = file.number

variable {others : List (Nat × ByteArray)} {file : StagedFile} {files : List StagedFile}
  {directory target : Path} {err : OsError}

/-- A disk holds the files that are staged on it. -/
theorem holds_self (d : Disk) : d.Holds d.staged [] :=
  fun _ h => .inl h

/-- Only the staged files count. -/
theorem Holds.of_staged (h : d.Holds others files) (hstaged : d'.staged = d.staged) :
    d'.Holds others files := by
  intro staged hmem
  exact h staged (hstaged ▸ hmem)

/-- More files may be numbered than there are. -/
theorem Holds.mono {files' : List StagedFile} (h : d.Holds others files)
    (hsub : ∀ file ∈ files, file ∈ files') : d.Holds others files' := by
  intro staged hmem
  exact (h staged hmem).imp_right fun ⟨file, hfile, heq⟩ => ⟨file, hsub file hfile, heq⟩

/-- A file that cannot be staged leaves the disk as it is. -/
theorem stage_error (h : d.stage directory = (.error err, d')) : d' = d := by
  simp only [stage] at h
  split at h <;> cases h <;> rfl

/-- A staged file is empty, and its number is used once. -/
private theorem stage_ok (h : d.stage directory = (.ok file, d')) :
    d' = { d with staged := (file.number, .empty) :: d.staged, next := d.next + 1 } := by
  simp only [stage] at h
  split at h <;> cases h
  rfl

/-- A file that is staged joins those that are held. -/
theorem Holds.stage (h : d.Holds others files) (hstage : d.stage directory = (.ok file, d')) :
    d'.Holds others (file :: files) := by
  rw [stage_ok hstage]
  intro staged hmem
  -- the new one is `file`, and the others are held as before
  rcases List.mem_cons.1 hmem with rfl | hmem
  · exact .inr ⟨file, List.mem_cons_self, rfl⟩
  · rcases h staged hmem with hother | ⟨held, hheld, heq⟩
    · exact .inl hother
    · exact .inr ⟨held, List.mem_cons_of_mem _ hheld, heq⟩

/-- Filling a staged file that is held leaves the same files held. -/
theorem Holds.fill {result : Except OsError Unit} (h : d.Holds others files) (hfile : file ∈ files)
    (hfill : d.fill file contents = (result, d')) : d'.Holds others files := by
  unfold Disk.fill at hfill
  split at hfill
  · cases hfill
    exact h
  · cases hfill
    intro staged hmem
    -- the staged file stands under its number again
    rcases List.mem_cons.1 hmem with rfl | hmem
    · exact .inr ⟨file, hfile, rfl⟩
    · exact h staged (List.mem_filter.1 hmem).1

/-- A file that is discarded is no longer held. -/
theorem Holds.discard (h : d.Holds others (file :: files)) :
    (d.discard file).Holds others files := by
  intro staged hmem
  obtain ⟨hmem, hne⟩ := List.mem_filter.1 hmem
  rcases h staged hmem with hother | ⟨held, hheld, heq⟩
  · exact .inl hother
  · -- the discarded number is that of no file that is left
    rcases List.mem_cons.1 hheld with rfl | hheld
    · simp [heq] at hne
    · exact .inr ⟨held, hheld, heq⟩

/-- Staging a file keeps all others. -/
theorem stage_keeps {result : Except OsError StagedFile}
    (h : d.stage directory = (result, d')) : d.KeepsFiles d' := by
  simp only [stage] at h
  split at h <;> cases h <;> exact .of_entries rfl rfl

/-- So does filling one that is staged. -/
theorem fill_keeps {result : Except OsError Unit} (h : d.fill file contents = (result, d')) :
    d.KeepsFiles d' := by
  unfold fill at h
  split at h <;> cases h <;> exact .of_entries rfl rfl

/-- So does discarding it. -/
theorem discard_keeps (d : Disk) (file : StagedFile) : d.KeepsFiles (d.discard file) :=
  .of_entries rfl rfl

/-! ### Moving a staged file, and taking it back -/

/-- A staged file that cannot be moved leaves the disk as it is. -/
theorem move_error (h : d.move file target = (.error err, d')) : d' = d := by
  unfold move at h
  -- of the branches, only the last one moves something
  split at h
  any_goals cases h <;> rfl
  split at h <;> cases h
  rfl

/-- A staged file that is moved takes the place of what stood at its target, which
is no directory. -/
theorem move_ok (h : d.move file target = (.ok (), d')) :
    ∃ loc contents, d.staged.lookup file.number = some contents ∧ d.locate target = .ok loc ∧
      d.node? loc ≠ some .directory ∧
      d' = (d.put loc (.file contents false)).discard file := by
  unfold move at h
  -- no contents, no location, a file that is refused: all of these are errors
  split at h
  · exact nomatch h
  · exact nomatch h
  · exact nomatch h
  · exact nomatch h
  · next contents loc _ hstaged hloc =>
    split at h
    · exact nomatch h
    · -- the only thing left to fail is a directory in the way
      next hdir =>
      cases h
      refine ⟨loc, contents, hstaged, hloc, ?_, rfl⟩
      intro hnode
      rw [hnode] at hdir
      exact hdir rfl

/-- Nothing keeps a path from being read, written or removed. -/
structure Restorable (d : Disk) (p : Path) : Prop where
  read : d.refuses (.read p) = none
  write : d.refuses (.write p) = none
  remove : d.refuses (.remove p) = none

/-- Whether a path can be restored only depends on what is refused. -/
theorem Restorable.of_refuses (h : d.Restorable p) (hrefuses : d'.refuses = d.refuses) :
    d'.Restorable p :=
  ⟨hrefuses ▸ h.read, hrefuses ▸ h.write, hrefuses ▸ h.remove⟩

/-- What is read where no directory stands: the file there, if there is one. -/
theorem toOption_read (hread : d.refuses (.read p) = none) (hloc : d.locate p = .ok loc)
    (hnode : d.node? loc ≠ some .directory) : (d.read p).toOption = d.fileAt? loc := by
  match heq : d.node? loc with
  | none => simp [read, hread, hloc, fileAt?, heq, bind, Except.bind, Except.toOption]
  | some .directory => exact (hnode heq).elim
  | some (.file contents readOnly) =>
    simp [read, hread, hloc, fileAt?, heq, bind, Except.bind, Except.toOption]

/-- What is written takes the place of the file at a location, and keeps its permission. -/
theorem write_eq_put (hwrite : d.refuses (.write p) = none) (hloc : d.locate p = .ok loc)
    (hnode : d.node? loc ≠ some .directory) (contents : ByteArray) :
    ∃ readOnly, (d.write p contents).2 = d.put loc (.file contents readOnly) := by
  match heq : d.node? loc with
  | none => exact ⟨false, by simp only [write, hwrite, hloc, heq]⟩
  | some .directory => exact (hnode heq).elim
  | some (.file previous readOnly) => exact ⟨readOnly, by simp only [write, hwrite, hloc, heq]⟩

/-- A file that is removed is erased from its location. -/
theorem remove_eq_erase (hremove : d.refuses (.remove p) = none) (hloc : d.locate p = .ok loc)
    (hnode : d.node? loc = some (.file contents readOnly)) : (d.remove p).2 = d.erase loc := by
  simp only [remove, hremove, hloc, hnode]

/-- Writing does not touch staged files. -/
theorem write_staged (d : Disk) (p : Path) (contents : ByteArray) :
    (d.write p contents).2.staged = d.staged := by
  unfold write
  split
  · rfl
  · rfl
  · split <;> rfl

/-- Neither does removing. -/
theorem remove_staged (d : Disk) (p : Path) : (d.remove p).2.staged = d.staged := by
  unfold remove
  split
  · rfl
  · rfl
  · split <;> rfl

section Undo

variable {flag : Bool}

/-- A file that was replaced is kept if its contents are put back. -/
theorem keepsFiles_put_back (hnode : d.node? loc ≠ some .directory)
    (hkeeps : (d.put loc (.file contents flag)).KeepsFiles d') {previous : ByteArray}
    (hprevious : d.fileAt? loc = some previous) (readOnly : Bool) :
    d.KeepsFiles (d'.put loc (.file previous readOnly)) := by
  have hloc := ne_nil_of_not_directory hnode
  refine ⟨fun other => ?_, fun other hdir => ?_, hkeeps.refuses⟩
  · rw [fileAt?_put_file d' previous readOnly hloc]
    -- the location has its contents again, and the others never changed
    by_cases h : other = loc
    · rw [if_pos h, h, hprevious]
    · rw [if_neg h, hkeeps.files, fileAt?_put_file d contents flag hloc, if_neg h]
  · -- a directory cannot be what was replaced
    have h : other ≠ loc := fun h => hnode (h ▸ hdir)
    rw [node?_put _ _ _ hloc, if_neg h]
    exact hkeeps.directories other (by rw [node?_put _ _ _ hloc, if_neg h, hdir])

/-- A location without a file is kept if what was put there is erased. -/
theorem keepsFiles_erase (hnode : d.node? loc ≠ some .directory)
    (hkeeps : (d.put loc (.file contents flag)).KeepsFiles d')
    (hprevious : d.fileAt? loc = none) : d.KeepsFiles (d'.erase loc) := by
  have hloc := ne_nil_of_not_directory hnode
  refine ⟨fun other => ?_, fun other hdir => ?_, hkeeps.refuses⟩
  · rw [fileAt?_erase d' hloc]
    -- the location is without a file again, and the others never changed
    by_cases h : other = loc
    · rw [if_pos h, h, hprevious]
    · rw [if_neg h, hkeeps.files, fileAt?_put_file d contents flag hloc, if_neg h]
  · -- a directory cannot be what is erased
    have h : other ≠ loc := fun h => hnode (h ▸ hdir)
    rw [node?_erase _ _ hloc, if_neg h]
    exact hkeeps.directories other (by rw [node?_put _ _ _ hloc, if_neg h, hdir])

end Undo

end VulkanGen.Disk
