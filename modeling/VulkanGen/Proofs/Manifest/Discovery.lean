import VulkanGen.Manifest.Nearest
import VulkanGen.Proofs.Disk.Absolute

/-!
# The nearest manifest is found

A manifest is looked for in a directory and then in its ancestors, and the first one
where a regular file of the right name stands decides: what is found is the manifest that
the file spells, or the error that it causes.  No directory behind that one is looked at,
and nothing is found only if there is no such file on the way to the last ancestor.

For a working directory, the ancestors are the directories that it stands in, up to the
root.

## Key results

- `Manifest.run_find_of_isNearest`: the nearest manifest decides what a search finds
- `Manifest.isNearest_ofLocation_iff`: the nearest manifest of a working directory
- `Manifest.find_nearest`: what is found, and when
-/

namespace VulkanGen

/-! ## Ancestors -/

namespace Path

/-- The ancestors are the path and its parents, counted upwards. -/
private theorem getElem?_ancestors (p : Path) (n : Nat) : p.ancestors[n]? = p.above? n := by
  induction n generalizing p with
  | zero => rw [ancestors_eq, List.getElem?_cons_zero, above?]
  | succ n ih =>
    rw [ancestors_eq, List.getElem?_cons_succ, above?]
    cases p.parent? with
    | none => rfl
    | some q => exact ih q

/-- Each parent of an absolute path takes one name off, up to the root. -/
private theorem above?_ofLocation {loc : Location} (h : ∀ name ∈ loc, Disk.IsName name) (n : Nat) :
    (ofLocation loc).above? n =
      if n ≤ loc.length then some (ofLocation (loc.drop n)) else none := by
  induction n generalizing loc with
  | zero => rfl
  | succ n ih =>
    cases loc with
    | nil => rfl
    | cons name loc =>
      rw [above?, parent?_ofLocation h, Option.bind_some, ih fun m hm => h m (.tail name hm)]
      simp

end Path

namespace Manifest

variable {d : Disk} {start directory : Path}

/-! ## Searching -/

/-- A step that leaves the disk as it is hands its result on. -/
private theorem run_bind_of_eq {α β : Type} {x : StateM Disk α} {a : α} (h : x.run d = (a, d))
    (f : α → StateM Disk β) : (x >>= f).run d = (f a).run d := by
  rw [StateT.run_bind, h]
  rfl

/-- What the file at a path is read as. -/
def loaded (d : Disk) (path : Path) : Except Error Manifest :=
  match d.read path with
  | .error e => .error (.reading path (.os e))
  | .ok bytes =>
    match String.fromUTF8? bytes with
    | none => .error (.reading path .notText)
    | some text => (ofText text).mapError (.parsing path)

/-- Loading a manifest only reads. -/
private theorem run_load (d : Disk) (path : Path) :
    (load path : StateM Disk _).run d = (loaded d path, d) := by
  have hread : (Host.read path : StateM Disk _).run d = (d.read path, d) := rfl
  rw [load, Host.readText, bind_assoc, run_bind_of_eq hread, loaded]
  cases d.read path with
  | error e => rfl
  | ok bytes =>
    dsimp only
    cases String.fromUTF8? bytes <;> rfl

/-- The first of some directories with a manifest decides. -/
private theorem run_findFirst (d : Disk) (directories : List Path) :
    (findFirst directories : StateM Disk _).run d =
      match directories.find? fun p => d.isFile (pathIn p) with
      | none => (.ok none, d)
      | some directory =>
        ((loaded d (pathIn directory)).map fun m => some (m, directory), d) := by
  induction directories with
  | nil => rfl
  | cons p directories ih =>
    have hfile : (Host.isFile (pathIn p) : StateM Disk _).run d = (d.isFile (pathIn p), d) := rfl
    rw [findFirst, ← pathIn, run_bind_of_eq hfile, List.find?_cons]
    -- asking for a file changes nothing, so the search goes on with the same disk
    cases d.isFile (pathIn p) with
    | false => exact ih
    | true =>
      rw [if_pos rfl, run_bind_of_eq (run_load d (pathIn p))]
      rfl

/-- What is found is what is loaded, with the directory that it is in. -/
private theorem map_loaded_eq_ok_iff {path : Path} {found : Option (Manifest × Path)} :
    ((loaded d path).map fun m => some (m, directory)) = .ok found ↔
      ∃ m, found = some (m, directory) ∧ loaded d path = .ok m := by
  cases loaded d path with
  | error e => simp [Except.map]
  | ok m => simp [Except.map, eq_comm]

/-- A search fails if what it loads fails. -/
private theorem map_loaded_eq_error_iff {path : Path} {e : Error} :
    ((loaded d path).map fun m => some (m, directory)) = .error e ↔
      loaded d path = .error e := by
  cases loaded d path <;> simp [Except.map]

/-- A file is read as the manifest that it spells. -/
private theorem loaded_eq_ok_iff {path : Path} {m : Manifest} :
    loaded d path = .ok m ↔ Spells d path m := by
  constructor
  · intro h
    unfold loaded at h
    -- of the three things that can go wrong, none has
    split at h
    · exact nomatch h
    · next bytes hread =>
      split at h
      · exact nomatch h
      · next text hbytes =>
        cases htext : ofText text with
        | error fault => rw [htext] at h; exact nomatch h
        | ok spelled =>
          rw [htext] at h
          cases h
          exact ⟨bytes, text, hread, hbytes, htext⟩
  · rintro ⟨bytes, text, hread, hbytes, htext⟩
    simp only [loaded, hread, hbytes, htext]
    rfl

/-- A file that cannot be used is an error. -/
private theorem loaded_eq_error_iff {path : Path} {e : Error} :
    loaded d path = .error e ↔ Unusable d path e := by
  constructor
  · intro h
    unfold loaded at h
    -- each step that can go wrong gives one kind of error
    split at h
    · next hread =>
      cases h
      exact .unread hread
    · next bytes hread =>
      split at h
      · next hbytes =>
        cases h
        exact .noText hread hbytes
      · next text hbytes =>
        cases htext : ofText text with
        | ok m => rw [htext] at h; exact nomatch h
        | error fault =>
          rw [htext] at h
          cases h
          exact .unparsed hread hbytes htext
  · intro h
    cases h with
    -- in the other direction, what was read so far decides each step
    | unread hread => simp only [loaded, hread]
    | noText hread hbytes => simp only [loaded, hread, hbytes]
    | unparsed hread hbytes htext =>
      simp only [loaded, hread, hbytes, htext]
      rfl

/-! ## The nearest -/

/-- A manifest stands in a directory if a lookup of its path finds a file. -/
private theorem isFile_pathIn_iff : d.isFile (pathIn directory) = true ↔ StandsIn d directory := by
  rw [StandsIn, Disk.isFile]
  split
  · next contents readOnly heq => simp [heq]
  · next hnone => simpa using fun contents readOnly => hnone contents readOnly

/-- The first ancestor with a manifest is the nearest one. -/
private theorem find?_ancestors_eq_some_iff :
    (start.ancestors.find? fun p => d.isFile (pathIn p)) = some directory ↔
      ∃ n, IsNearest d start n directory := by
  simp only [List.find?_eq_some_iff_getElem, isFile_pathIn_iff, Bool.not_eq_true',
    Bool.eq_false_iff, ne_eq]
  constructor
  · -- an ancestor that is found has a position, which counts the steps to it
    rintro ⟨hstands, n, hn, rfl, hnearer⟩
    refine ⟨n, ?_, hstands, fun k hk nearer habove => ?_⟩
    · rw [← Path.getElem?_ancestors, List.getElem?_eq_getElem hn]
    · rw [← Path.getElem?_ancestors] at habove
      obtain ⟨_, rfl⟩ := List.getElem?_eq_some_iff.mp habove
      exact hnearer k hk
  · rintro ⟨n, habove, hstands, hnearer⟩
    rw [← Path.getElem?_ancestors] at habove
    obtain ⟨hn, heq⟩ := List.getElem?_eq_some_iff.mp habove
    refine ⟨hstands, n, hn, heq, fun k hk => hnearer k hk _ ?_⟩
    rw [← Path.getElem?_ancestors, List.getElem?_eq_getElem]

/-- No ancestor has a manifest if none of the parents has. -/
private theorem find?_ancestors_eq_none_iff :
    (start.ancestors.find? fun p => d.isFile (pathIn p)) = none ↔
      ∀ n p, start.above? n = some p → ¬StandsIn d p := by
  simp only [List.find?_eq_none, isFile_pathIn_iff, List.mem_iff_getElem?,
    Path.getElem?_ancestors, forall_exists_index]
  exact forall_comm

/-- The nearest manifest decides what a search finds. -/
theorem run_find_of_isNearest {n : Nat} (h : IsNearest d start n directory) :
    (find start : StateM Disk _).run d =
      ((loaded d (pathIn directory)).map fun m => some (m, directory), d) := by
  rw [find, run_findFirst, find?_ancestors_eq_some_iff.mpr ⟨n, h⟩]

/-- Without any manifest on the way a search finds nothing. -/
private theorem run_find_of_none (h : ∀ n p, start.above? n = some p → ¬StandsIn d p) :
    (find start : StateM Disk _).run d = (.ok none, d) := by
  rw [find, run_findFirst, find?_ancestors_eq_none_iff.mpr h]

/-- Only one manifest is the nearest. -/
private theorem IsNearest.directory_unique {n k : Nat} {other : Path}
    (h : IsNearest d start n directory)
    (hother : IsNearest d start k other) : directory = other := by
  have hfound := find?_ancestors_eq_some_iff.mpr ⟨n, h⟩
  rw [find?_ancestors_eq_some_iff.mpr ⟨k, hother⟩] at hfound
  exact (Option.some.inj hfound).symm

/-- There is a nearest manifest if there is one at all. -/
private theorem exists_isNearest_or_none (d : Disk) (start : Path) :
    (∃ n directory, IsNearest d start n directory) ∨
      ∀ n p, start.above? n = some p → ¬StandsIn d p := by
  cases hfind : start.ancestors.find? fun p => d.isFile (pathIn p) with
  | none => exact .inr (find?_ancestors_eq_none_iff.mp hfind)
  | some directory =>
    obtain ⟨n, hnearest⟩ := find?_ancestors_eq_some_iff.mp hfind
    exact .inl ⟨n, directory, hnearest⟩

/-! ## Working directories -/

/-- A manifest is called by a name. -/
private theorem isName_fileName : Disk.IsName fileName :=
  ⟨by decide, by decide, by decide, by decide, by decide, by decide⟩

/-- A manifest stands in a directory above a working directory if a file of its name does. -/
private theorem standsIn_ofLocation_iff {loc : Location} (h : d.IsWorkingDirectory loc)
    (hsize : (pathIn (Path.ofLocation loc)).text.utf8ByteSize ≤ Disk.longestPath) (k : Nat) :
    StandsIn d (Path.ofLocation (loc.drop k)) ↔ d.fileAt? (fileName :: loc.drop k) ≠ none := by
  have hnames : ∀ n ∈ fileName :: loc.drop k, Disk.IsName n := by
    rw [List.forall_mem_cons]
    exact ⟨isName_fileName, fun n hn => h.names n (List.mem_of_mem_drop hn)⟩
  have hall : ∀ n ∈ fileName :: loc, Disk.IsName n :=
    List.forall_mem_cons.mpr ⟨isName_fileName, h.names⟩
  -- the lookup walks through these directories and is as long as at the start, or shorter
  have hdirs : ∀ j, d.node? ((loc.drop k).drop j) = some .directory := by
    intro j
    rw [List.drop_drop]
    exact h.directories (k + j)
  rw [pathIn, Path.join_ofLocation hall] at hsize
  have hfind := Disk.find?_ofLocation hdirs hnames
    (Nat.le_trans (Disk.size_ofLocation_drop_le fileName loc k) hsize)
  -- the lookup ends at the node of the location, and a file is what has contents there
  rw [StandsIn, pathIn, Path.join_ofLocation hnames, hfind, Disk.fileAt?]
  split
  · next contents readOnly heq => simp [heq]
  · next hnone => simpa using fun contents readOnly => hnone contents readOnly

/-- The nearest manifest of a working directory is the file of its name that the fewest
steps towards the root lead to. -/
theorem isNearest_ofLocation_iff {loc : Location} (h : d.IsWorkingDirectory loc)
    (hsize : (pathIn (Path.ofLocation loc)).text.utf8ByteSize ≤ Disk.longestPath) (n : Nat) :
    IsNearest d (Path.ofLocation loc) n directory ↔
      n ≤ loc.length ∧ directory = Path.ofLocation (loc.drop n) ∧
        d.fileAt? (fileName :: loc.drop n) ≠ none ∧
        ∀ k < n, d.fileAt? (fileName :: loc.drop k) = none := by
  have hstands := standsIn_ofLocation_iff h hsize
  have habove (k : Nat) : (Path.ofLocation loc).above? k = _ := Path.above?_ofLocation h.names k
  constructor
  · -- parents stop at the root, which bounds the steps
    rintro ⟨hn, hstand, hnearer⟩
    rw [habove] at hn
    split at hn
    · next hle =>
      cases hn
      refine ⟨hle, rfl, (hstands n).mp hstand, fun k hk => ?_⟩
      have hnone := hnearer k hk _ (by rw [habove, if_pos (by omega)])
      rwa [hstands, Decidable.not_not] at hnone
    · exact nomatch hn
  · rintro ⟨hle, rfl, hfile, hnearer⟩
    refine ⟨by rw [habove, if_pos hle], (hstands n).mpr hfile, fun k hk nearer hk' => ?_⟩
    rw [habove, if_pos (by omega)] at hk'
    cases hk'
    rw [hstands, Decidable.not_not]
    exact hnearer k hk

/-! ## Searches -/

/-- A search looks from the start through its ancestors for a regular file that is called
like a manifest, and the first one decides.  It finds what that file spells, together with
the directory, and fails if that file cannot be read or spells no manifest; and it finds
nothing exactly if no directory on the way has such a file.  It changes nothing.

What stands in a directory is here what a path lookup finds there, which gives up on paths
that are too long.  From a working directory whose manifest has a path of at most
`Disk.longestPath` bytes, the ancestors are the directories that it stands in, and what a
lookup finds in them are the files of the disk. -/
theorem find_nearest (d : Disk) (start : Path) :
    ((find start : StateM Disk _).run d).2 = d ∧
    (∀ (m : Manifest) (directory : Path),
      ((find start : StateM Disk _).run d).1 = .ok (some (m, directory)) ↔
        ∃ n, IsNearest d start n directory ∧ Spells d (pathIn directory) m) ∧
    (∀ e : Error, ((find start : StateM Disk _).run d).1 = .error e ↔
      ∃ n directory, IsNearest d start n directory ∧ Unusable d (pathIn directory) e) ∧
    (((find start : StateM Disk _).run d).1 = .ok none ↔
      ∀ n p, start.above? n = some p → ¬StandsIn d p) ∧
    ∀ loc : Location, start = Path.ofLocation loc → d.IsWorkingDirectory loc →
      (pathIn start).text.utf8ByteSize ≤ Disk.longestPath →
      ∀ (n : Nat) (directory : Path), IsNearest d start n directory ↔
        n ≤ loc.length ∧ directory = Path.ofLocation (loc.drop n) ∧
          d.fileAt? (fileName :: loc.drop n) ≠ none ∧
          ∀ k < n, d.fileAt? (fileName :: loc.drop k) = none := by
  have hworking : ∀ loc : Location, start = Path.ofLocation loc → d.IsWorkingDirectory loc →
      (pathIn start).text.utf8ByteSize ≤ Disk.longestPath →
      ∀ (n : Nat) (directory : Path), IsNearest d start n directory ↔ _ :=
    fun loc hstart h hsize n p => hstart ▸ isNearest_ofLocation_iff h (hstart ▸ hsize) n
  -- the search stops at the nearest manifest, or finds none; all results follow from which
  rcases exists_isNearest_or_none d start with ⟨steps, nearest, hnearest⟩ | hnone
  · rw [run_find_of_isNearest hnearest]
    refine ⟨rfl, fun m p => ?_, fun e => ?_, ?_, hworking⟩
    · rw [map_loaded_eq_ok_iff]
      constructor
      · rintro ⟨spelled, hpair, hloaded⟩
        cases hpair
        exact ⟨steps, hnearest, loaded_eq_ok_iff.mp hloaded⟩
      · rintro ⟨n, hn, hspells⟩
        -- the directory in the statement is the nearest one
        obtain rfl := hnearest.directory_unique hn
        exact ⟨m, rfl, loaded_eq_ok_iff.mpr hspells⟩
    · rw [map_loaded_eq_error_iff]
      constructor
      · exact fun h => ⟨steps, nearest, hnearest, loaded_eq_error_iff.mp h⟩
      · rintro ⟨n, p, hn, hfault⟩
        obtain rfl := hnearest.directory_unique hn
        exact loaded_eq_error_iff.mpr hfault
    · -- what is loaded is never nothing, and a manifest stands in the nearest directory
      rw [map_loaded_eq_ok_iff]
      refine iff_of_false ?_ fun hnone => hnone _ _ hnearest.above hnearest.stands
      rintro ⟨_, hpair, _⟩
      exact nomatch hpair
  · have hno (n : Nat) (p : Path) : ¬IsNearest d start n p :=
      fun h => hnone n p h.above h.stands
    rw [run_find_of_none hnone]
    refine ⟨rfl, fun m p => ?_, fun e => ?_, iff_of_true rfl hnone, hworking⟩
    · simp [hno]
    · simp [hno]

/-- A project whose directory has a directory that is called like a manifest, in a root
with a manifest. -/
def passedOver : Disk :=
  { Disk.empty with entries :=
      [(["project"], .directory), (["vkwrap.toml", "project"], .directory),
        (["vkwrap.toml"], .file "[generator]\nmax_width = 70\n".toUTF8 false)] }

/-- The project is a directory in the root. -/
private theorem isWorkingDirectory_passedOver : passedOver.IsWorkingDirectory ["project"] where
  directories
    | 0 => rfl
    | 1 => rfl
    | _ + 2 => rfl
  names := by
    simp only [List.mem_singleton, forall_eq]
    exact ⟨by decide, by decide, by decide, by decide, by decide, by decide⟩

/-- The manifest in the root sets the width to 70. -/
private theorem spells_passedOver : Spells passedOver (pathIn ⟨"/"⟩) { maxWidth := some 70 } := by
  have heval : (ofText "[generator]\nmax_width = 70\n").toOption =
      some { maxWidth := some 70 } := by
    decide +kernel
  -- `ofText` is evaluated once, in `heval`
  cases htext : ofText "[generator]\nmax_width = 70\n" with
  | error fault =>
    rw [htext] at heval
    exact nomatch heval
  | ok m =>
    rw [htext] at heval
    cases heval
    exact ⟨_, _, rfl, by decide +kernel, htext⟩

/-- The directory that is called like a manifest is passed over. -/
theorem find_nearest_passedOver :
    ((find ⟨"/project"⟩ : StateM Disk _).run passedOver).1 =
      .ok (some ({ maxWidth := some 70 }, ⟨"/"⟩)) := by
  obtain ⟨_, hfound, _, _, hworking⟩ := find_nearest passedOver ⟨"/project"⟩
  refine (hfound _ _).mpr ⟨1, ?_, spells_passedOver⟩
  refine (hworking ["project"] (by decide) isWorkingDirectory_passedOver (by decide) 1 ⟨"/"⟩).mpr
    ⟨by decide, rfl, by decide, ?_⟩
  rintro k hk
  obtain rfl : k = 0 := by omega
  rfl

end Manifest

end VulkanGen
