import VulkanGen.Disk
import VulkanGen.Manifest

/-!
# The nearest manifest

Parents are counted from a directory upwards, and the manifest that counts for the
directory is the one that the fewest parents lead to.  Whether that manifest can be used
is another question.

* `Path.above?`                           the path that so many parents lead to
* `Manifest.IsNearest`                    where the nearest manifest of a directory stands
* `Manifest.Spells`, `Manifest.Unusable`  whether a file can be used as a manifest
-/

namespace VulkanGen

/-- The path that is so many parents above a path, as far as there are parents. -/
def Path.above? (p : Path) : Nat → Option Path
  | 0 => some p
  | n + 1 => p.parent?.bind fun q => q.above? n

namespace Manifest

/-- Where the manifest of a directory is. -/
def pathIn (directory : Path) : Path :=
  directory.join ⟨fileName⟩

/-- A regular file stands where the manifest of a directory is, as far as a path lookup can
tell: a path of more than `Disk.longestPath` bytes is never found. -/
def StandsIn (d : Disk) (directory : Path) : Prop :=
  ∃ contents readOnly, d.find? (pathIn directory) = some (.file contents readOnly)

/-- The nearest manifest, seen from `start`, is in the directory that `n` parents lead
to: a regular file stands there, and none in a directory that is nearer. -/
structure IsNearest (d : Disk) (start : Path) (n : Nat) (directory : Path) : Prop where
  above : start.above? n = some directory
  stands : StandsIn d directory
  none_nearer : ∀ k < n, ∀ nearer, start.above? k = some nearer → ¬StandsIn d nearer

/-- The file at a path can be read and is the text of a manifest. -/
def Spells (d : Disk) (path : Path) (m : Manifest) : Prop :=
  ∃ bytes text, d.read path = .ok bytes ∧ String.fromUTF8? bytes = some text ∧
    ofText text = .ok m

/-- Why the file at a path cannot be used as a manifest: it cannot be read, it is no
text, or its text spells no manifest. -/
inductive Unusable (d : Disk) (path : Path) : Error → Prop
  | unread {e : OsError} (h : d.read path = .error e) : Unusable d path (.reading path (.os e))
  | noText {bytes : ByteArray} (h : d.read path = .ok bytes)
      (hbytes : String.fromUTF8? bytes = none) : Unusable d path (.reading path .notText)
  | unparsed {bytes : ByteArray} {text : String} {fault : Fault} (h : d.read path = .ok bytes)
      (hbytes : String.fromUTF8? bytes = some text) (htext : ofText text = .error fault) :
      Unusable d path (.parsing path fault)

end Manifest

end VulkanGen
