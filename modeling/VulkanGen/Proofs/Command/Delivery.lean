import VulkanGen.Proofs.Artifact.Placement
import VulkanGen.Proofs.Command.Generate

/-!
# What generating leaves behind

Generating moves four files to the output directory, and what is shown afterwards names all
four.  Their names are made from two stems, and two stems may lead to one place: then the
function table's file replaces the interface's, and only two files are there.  Headers and
sources never meet, since a place keeps the ending of its path.

## Key results

* `locate_header_ne_source`  a header and a source have different places
* `declarations_ne_tableHeader`  with one stem the two headers differ
* `runGenerate_delivers_iff`  what every location holds, and when all four files are there
-/

namespace VulkanGen

variable {d d' : Disk}

/-! ### Places -/

/-- A joined path ends in the text of the second one. -/
private theorem Path.text_join (p q : Path) : ∃ front, (p.join q).text = front ++ q.text := by
  unfold Path.join
  split
  · exact ⟨"", String.empty_append.symm⟩
  · split
    · exact ⟨p.text, rfl⟩
    · exact ⟨p.text ++ "/", rfl⟩

/-- A header and a source never have the same place. -/
theorem Disk.locate_header_ne_source {directory : Path} {stem stem' : String} {loc : Location}
    (h : d.locate (directory.join ⟨stem ++ ".h"⟩) = .ok loc) :
    d.locate (directory.join ⟨stem' ++ ".cpp"⟩) ≠ .ok loc := by
  intro h'
  obtain ⟨front, htext⟩ := Path.text_join directory ⟨stem ++ ".h"⟩
  obtain ⟨front', htext'⟩ := Path.text_join directory ⟨stem' ++ ".cpp"⟩
  -- the two paths end in different letters
  have hends : (directory.join ⟨stem ++ ".h"⟩).text.toList =
      (front.toList ++ stem.toList ++ ['.']) ++ ['h'] := by
    rw [htext]
    simp
  have hends' : (directory.join ⟨stem' ++ ".cpp"⟩).text.toList =
      (front'.toList ++ stem'.toList ++ ['.', 'c', 'p']) ++ ['p'] := by
    rw [htext']
    simp
  -- a place is named by the last part of its path, so the last letters can be compared
  obtain ⟨name, rest, rfl, hname⟩ := Disk.exists_name_of_locate hends (by decide) (by decide) h
  obtain ⟨name', rest', heq, hname'⟩ :=
    Disk.exists_name_of_locate hends' (by decide) (by decide) h'
  rw [(List.cons.inj heq).1, hname'] at hname
  exact absurd hname (by decide)

/-! ### Contents -/

namespace Artifact

/-- The lines that keep a header from being included twice. -/
def guardLines (guard : String) : String :=
  s!"#ifndef {guard}\n#define {guard}\n\n"

/-- The interface starts with its guard and goes on with an include. -/
private theorem declarations_front (config : Config) (ws : List Wrapper) :
    ∃ rest, declarations config ws =
      guardLines (config.naming.headerGuard config.naming.apiFile) ++ ("#include <" ++ rest) := by
  delta declarations guardLines
  simp only [String.append_assoc]
  exact ⟨_, rfl⟩

/-- The header of the function table starts with its guard and goes on with a define. -/
private theorem tableHeader_front (config : Config) (headerNames : List String)
    (table : FunctionTable) :
    ∃ rest, tableHeader config headerNames table =
      guardLines (config.naming.headerGuard config.naming.tableFile) ++
        ("#define VK_NO_PROTOTYPES\n\n" ++ rest) := by
  delta tableHeader tableHeaderOpening guardLines
  simp only [String.append_assoc]
  exact ⟨_, rfl⟩

/-- With one stem the two headers have the same guard, and differ behind it. -/
theorem declarations_ne_tableHeader {config : Config}
    (hstem : config.naming.apiFile = config.naming.tableFile) (ws : List Wrapper)
    (headerNames : List String) (table : FunctionTable) :
    declarations config ws ≠ tableHeader config headerNames table := by
  intro h
  obtain ⟨rest, hfront⟩ := declarations_front config ws
  obtain ⟨rest', hfront'⟩ := tableHeader_front config headerNames table
  rw [hfront, hfront', hstem] at h
  have hlists := congrArg String.toList h
  rw [String.toList_append, String.toList_append, String.toList_append,
    String.toList_append] at hlists
  -- one goes on with an include and the other with a define
  have hsecond := congrArg (·[1]?) (List.append_cancel_left hlists)
  exact absurd hsecond (by simp)

end Artifact

namespace Generation

variable {config : Config} {headers : List Header} {g : Generation} {directory : Path}

/-- With one stem the function table's header has the place of the interface's and says
something else, so they are not both there. -/
private theorem not_delivered_of_oneStem (h : ofHeaders config headers = .ok g)
    (hstem : config.naming.apiFile = config.naming.tableFile) :
    ¬∀ a ∈ g.artifacts, d.contents? (a.destination directory) = some a.contents.toUTF8 := by
  intro hall
  obtain ⟨table, wrappers, -, -, rfl⟩ := (ofHeaders_eq_ok_iff config headers g).1 h
  simp only [artifacts, List.forall_mem_cons, List.not_mem_nil] at hall
  obtain ⟨hdeclarations, -, htableHeader, -⟩ := hall
  have hplace := Artifact.contents_eq_of_delivered hdeclarations htableHeader
  refine Artifact.declarations_ne_tableHeader hstem _ _ _ (hplace ?_)
  simp only [assemble, Artifact.destination, hstem]

/-- An artifact is one of the two headers or one of the two sources, as its name says. -/
private theorem header_or_source (h : ofHeaders config headers = .ok g) {a : Artifact}
    (ha : a ∈ g.artifacts) :
    ((a = g.declarations ∨ a = g.tableHeader) ∧ ∃ stem, a.fileName = stem ++ ".h") ∨
      (a = g.implementations ∨ a = g.tableSource) ∧ ∃ stem, a.fileName = stem ++ ".cpp" := by
  obtain ⟨table, wrappers, -, -, rfl⟩ := (ofHeaders_eq_ok_iff config headers g).1 h
  simp only [artifacts, List.mem_cons, List.not_mem_nil, or_false] at ha
  rcases ha with rfl | rfl | rfl | rfl
  · exact .inl ⟨.inl rfl, _, rfl⟩
  · exact .inr ⟨.inl rfl, _, rfl⟩
  · exact .inl ⟨.inr rfl, _, rfl⟩
  · exact .inr ⟨.inr rfl, _, rfl⟩

/-- Artifacts that have one place say the same if the two headers do, where they have one
place, and the two sources. -/
private theorem contents_eq_of_onePlace (h : ofHeaders config headers = .ok g)
    (hheaders : d.locate (g.declarations.destination directory) =
      d.locate (g.tableHeader.destination directory) →
        g.declarations.contents = g.tableHeader.contents)
    (hsources : d.locate (g.implementations.destination directory) =
      d.locate (g.tableSource.destination directory) →
        g.implementations.contents = g.tableSource.contents)
    {a b : Artifact} (ha : a ∈ g.artifacts) (hb : b ∈ g.artifacts) {loc : Location}
    (hloc : d.locate (a.destination directory) = .ok loc)
    (hloc' : d.locate (b.destination directory) = .ok loc) : a.contents = b.contents := by
  have hsame := hloc.trans hloc'.symm
  -- a header and a source cannot meet, which leaves the two pairs
  rcases header_or_source h ha with ⟨haheader, stem, hname⟩ | ⟨hasource, stem, hname⟩ <;>
    rcases header_or_source h hb with ⟨hbheader, stem', hname'⟩ | ⟨hbsource, stem', hname'⟩
  · -- two headers
    rcases haheader with rfl | rfl <;> rcases hbheader with rfl | rfl
    · rfl
    · exact hheaders hsame
    · exact (hheaders hsame.symm).symm
    · rfl
  · rw [Artifact.destination, hname] at hloc
    rw [Artifact.destination, hname'] at hloc'
    exact absurd hloc' (Disk.locate_header_ne_source hloc)
  · rw [Artifact.destination, hname] at hloc
    rw [Artifact.destination, hname'] at hloc'
    exact absurd hloc (Disk.locate_header_ne_source hloc')
  · -- two sources
    rcases hasource with rfl | rfl <;> rcases hbsource with rfl | rfl
    · rfl
    · exact hsources hsame
    · exact (hsources hsame.symm).symm
    · rfl

end Generation

namespace Command

variable {headers : List Path} {directory : Path} {config : Config} {text : String}

/-- Where generating succeeds, every location holds the last artifact that goes there, and
what it held before if none does; no staged file is left.  All four artifacts are there
exactly if the two headers have different places or the same contents, and so have the two
sources.  With one stem they never are, though all four destinations are shown. -/
theorem runGenerate_delivers_iff
    (h : (runGenerate headers directory config : StateM Disk _).run d = (.ok text, d')) :
    ∃ loaded g report, (loadHeaders headers : StateM Disk _).run d = (.ok loaded, d) ∧
      Generation.ofHeaders config loaded = .ok g ∧
      text = deliveryText directory (g.artifacts.map (Artifact.destination directory)) report ∧
      (∀ a ∈ g.artifacts, ∃ loc, d'.locate (a.destination directory) = .ok loc) ∧
      (∀ loc, d'.fileAt? loc =
        Artifact.fileAfter d' directory loc g.artifacts (d.fileAt? loc)) ∧
      (∀ loc, (∀ a ∈ g.artifacts, d'.locate (a.destination directory) ≠ .ok loc) →
        d'.fileAt? loc = d.fileAt? loc) ∧
      (∀ staged ∈ d'.staged, staged ∈ d.staged) ∧
      ((∀ a ∈ g.artifacts, d'.contents? (a.destination directory) = some a.contents.toUTF8) ↔
        (d'.locate (g.declarations.destination directory) =
            d'.locate (g.tableHeader.destination directory) →
          g.declarations.contents = g.tableHeader.contents) ∧
        (d'.locate (g.implementations.destination directory) =
            d'.locate (g.tableSource.destination directory) →
          g.implementations.contents = g.tableSource.contents)) ∧
      (config.naming.apiFile = config.naming.tableFile →
        ¬∀ a ∈ g.artifacts, d'.contents? (a.destination directory) = some a.contents.toUTF8) := by
  obtain ⟨loaded, g, paths, report, hload, hg, hdeliver, rfl⟩ := runGenerate_ok h
  obtain ⟨rfl, hlocated, hfiles, hholds⟩ := Artifact.deliver_files hdeliver
  -- every statement about the disk is read off what each location holds
  refine ⟨loaded, g, report, hload, hg, rfl, hlocated, hfiles, ?_, ?_, ⟨?_, ?_⟩, ?_⟩
  · intro loc helsewhere
    rw [hfiles, Artifact.fileAfter_of_elsewhere helsewhere]
  · intro staged hmem
    rcases hholds staged hmem with hmem | ⟨file, hfile, -⟩
    · exact hmem
    · exact nomatch hfile
  · -- two artifacts that are both there cannot differ in one place
    intro hall
    simp only [Generation.artifacts, List.forall_mem_cons, List.not_mem_nil] at hall
    obtain ⟨hdeclarations, himplementations, htableHeader, htableSource, -⟩ := hall
    exact ⟨Artifact.contents_eq_of_delivered hdeclarations htableHeader,
      Artifact.contents_eq_of_delivered himplementations htableSource⟩
  · -- whatever goes to the place of an artifact says the same
    intro ⟨hheaders, hsources⟩ a ha
    obtain ⟨loc, hloc⟩ := hlocated a ha
    simp only [Disk.contents?, hloc, hfiles]
    refine Artifact.fileAfter_of_agree _ ⟨a, ha, hloc⟩ fun b hb hloc' => ?_
    exact Generation.contents_eq_of_onePlace hg hheaders hsources hb ha hloc' hloc
  · exact Generation.not_delivered_of_oneStem hg

/-- A disk with a core header and two files that were generated before. -/
def twoFiles : Disk where
  entries :=
    [(["core.h"], .file lastMoveRefused.coreHeader.toUTF8 false), (["out"], .directory),
      (["api.h", "out"], .file "previous".toUTF8 false),
      (["other.h", "out"], .file "other".toUTF8 false)]
  staged := []
  next := 0
  refuses _ := none

/-- Settings that give the interface and the table different destinations. -/
def separateFiles : Config := { naming := { apiFile := "api", tableFile := "table" } }

/-- What generating with these settings gives. -/
def separateRun : Except Failure String × Disk :=
  (runGenerate [⟨"/core.h"⟩] ⟨"/out"⟩ separateFiles : StateM Disk _).run twoFiles

/-- The run succeeds, with four places that are apart from each other and from the other file.
-/
private theorem separateRun_places :
    separateRun.1.toOption.isSome = true ∧
      separateRun.2.locate (Path.join ⟨"/out"⟩ ⟨separateFiles.naming.apiFile ++ ".h"⟩) ≠
        separateRun.2.locate (Path.join ⟨"/out"⟩ ⟨separateFiles.naming.tableFile ++ ".h"⟩) ∧
      separateRun.2.locate (Path.join ⟨"/out"⟩ ⟨separateFiles.naming.apiFile ++ ".cpp"⟩) ≠
        separateRun.2.locate (Path.join ⟨"/out"⟩ ⟨separateFiles.naming.tableFile ++ ".cpp"⟩) ∧
      ∀ name ∈ separateFiles.naming.fileNames,
        separateRun.2.locate (Path.join ⟨"/out"⟩ ⟨name⟩) ≠ .ok ["other.h", "out"] := by
  decide +kernel

/-- With two stems all four files are there, one of them in the place of an earlier one, and
the other file is as before. -/
theorem runGenerate_delivers_of_separateFiles :
    ∃ text d' loaded g,
      (runGenerate [⟨"/core.h"⟩] ⟨"/out"⟩ separateFiles : StateM Disk _).run twoFiles =
        (.ok text, d') ∧
      Generation.ofHeaders separateFiles loaded = .ok g ∧
      (∀ a ∈ g.artifacts, d'.contents? (a.destination ⟨"/out"⟩) = some a.contents.toUTF8) ∧
      d'.fileAt? ["other.h", "out"] = some "other".toUTF8 := by
  obtain ⟨hsome, hheaders, hsources, hother⟩ := separateRun_places
  have hbefore : twoFiles.fileAt? ["other.h", "out"] = some "other".toUTF8 := by decide +kernel
  -- the run is only evaluated in `separateRun_places`; here it has a name
  cases hrun : separateRun with
  | mk result d' =>
    rw [hrun] at hsome hheaders hsources hother
    cases result with
    | error e => exact nomatch hsome
    | ok text =>
      obtain ⟨loaded, g, report, -, hg, -, -, -, helsewhere, -, hall, -⟩ :=
        runGenerate_delivers_iff hrun
      -- headers and sources are named apart, so the places that could meet are these two pairs
      have hnames := Generation.fileNames_of_ofHeaders hg
      simp only [Generation.artifacts, Naming.fileNames, List.map_cons, List.map_nil,
        List.cons.injEq, and_true] at hnames
      obtain ⟨hdeclarations, himplementations, htableHeader, htableSource⟩ := hnames
      refine ⟨text, d', loaded, g, hrun, hg, hall.mpr ⟨fun hplace => ?_, fun hplace => ?_⟩, ?_⟩
      · rw [Artifact.destination, Artifact.destination, hdeclarations, htableHeader] at hplace
        exact absurd hplace hheaders
      · rw [Artifact.destination, Artifact.destination, himplementations, htableSource] at hplace
        exact absurd hplace hsources
      · -- the fourth file is none of the artifacts, so it has its contents
        rw [helsewhere _ fun a ha => ?_, hbefore]
        refine hother a.fileName ?_
        rw [← Generation.fileNames_of_ofHeaders hg]
        exact List.mem_map_of_mem ha

/-- With one stem the run succeeds too. -/
private theorem run_sharedFiles :
    ((runGenerate [⟨"/core.h"⟩] ⟨"/out"⟩ sharedFiles : StateM Disk _).run
      twoFiles).1.toOption.isSome = true := by
  decide +kernel

/-- With one stem the function table's header is where the interface's should be. -/
theorem not_runGenerate_delivers :
    ¬∀ (d d' : Disk) (headers : List Path) (directory : Path) (config : Config) (text : String),
      (runGenerate headers directory config : StateM Disk _).run d = (.ok text, d') →
      ∃ loaded g, Generation.ofHeaders config loaded = .ok g ∧
        ∀ a ∈ g.artifacts,
          d'.contents? (a.destination directory) = some a.contents.toUTF8 := by
  intro hclaim
  have hsome := run_sharedFiles
  cases hrun : (runGenerate [⟨"/core.h"⟩] ⟨"/out"⟩ sharedFiles : StateM Disk _).run twoFiles with
  | mk result d' =>
    rw [hrun] at hsome
    cases result with
    | error e => exact nomatch hsome
    | ok text =>
      obtain ⟨loaded, g, hg, hall⟩ := hclaim _ _ _ _ _ _ hrun
      exact Generation.not_delivered_of_oneStem hg rfl hall

end Command

end VulkanGen
