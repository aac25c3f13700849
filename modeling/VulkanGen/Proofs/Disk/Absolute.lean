import VulkanGen.Disk.Absolute
import VulkanGen.Proofs.Disk.Files

/-!
# Absolute paths lead to their locations

The absolute path of a location names the directories on the way to it.  So taking the
parent of the path takes the innermost name off the location, and walking along the path
meets every directory on the way.

## Key results

- `Path.parent?_ofLocation`: the parent of an absolute path
- `Path.join_ofLocation`: a name joined to an absolute path
- `Disk.find?_ofLocation`: what stands at an absolute path
-/

namespace VulkanGen

namespace Path

/-- An absolute path is its names, unless there are none. -/
private theorem toList_ofLocation {loc : Location} (h : loc ≠ []) :
    (ofLocation loc).text.toList = namesText loc := by
  rw [ofLocation, if_neg (by simpa using h), String.toList_ofList]

/-- A name has no idle segments at its end. -/
private theorem dropIdle_name {name : String} (h : Disk.IsName name) (rest : List Char) :
    dropIdle (name.toList.reverse ++ '/' :: rest) = name.toList.reverse ++ '/' :: rest := by
  have hseparator : '/' ∉ name.toList.reverse := fun hmem =>
    h.no_separator (List.mem_reverse.mp hmem)
  -- the last character of the name, which is the first one here
  cases hname : name.toList.reverse with
  | nil => exact absurd (List.reverse_eq_nil_iff.mp hname) h.ne_nil
  | cons c cs =>
    rw [hname, List.mem_cons, not_or] at hseparator
    rw [List.cons_append]
    unfold dropIdle
    split
    · next heq =>
      rw [List.cons.injEq] at heq
      exact absurd heq.1.symm hseparator.1
    · next heq =>
      rw [List.cons.injEq] at heq
      obtain ⟨rfl, rfl⟩ := heq
      -- the name is more than this dot, and what stands before it is no separator
      cases cs with
      | nil => exact absurd (List.reverse_eq_iff.mp hname) h.ne_dot
      | cons d ds =>
        rw [List.mem_cons, not_or] at hseparator
        rw [if_neg (by simpa using Ne.symm hseparator.2.1)]
    · rfl

/-- A path that ends in a name has what is before the name for its parent. -/
private theorem parent?_of_dropIdle {p : Path} {c : Char} {cs : List Char}
    (h : dropIdle p.text.toList.reverse = c :: cs) (hc : c ≠ '/') :
    p.parent? = some ⟨.ofList (dropIdle ((c :: cs).dropWhile (· ≠ '/'))).reverse⟩ := by
  unfold parent?
  rw [h]
  split
  · next heq => exact nomatch heq
  · next heq => exact absurd (List.cons.inj heq).1 hc
  · next heq => rw [heq]

/-- The names of a location, read backwards, have no idle segments at their end. -/
private theorem dropIdle_namesText {loc : Location} (h : ∀ n ∈ loc, Disk.IsName n) :
    (dropIdle ('/' :: (namesText loc).reverse)).reverse = (ofLocation loc).text.toList := by
  cases loc with
  | nil => rfl
  | cons name loc =>
    have hname := h name List.mem_cons_self
    have hreverse : (namesText (name :: loc)).reverse =
        name.toList.reverse ++ '/' :: (namesText loc).reverse := by
      simp [namesText]
    rw [dropIdle, hreverse, if_neg (by simp), dropIdle_name hname, ← hreverse,
      List.reverse_reverse, toList_ofLocation (List.cons_ne_nil name loc)]

/-- Taking the parent takes the innermost name off. -/
theorem parent?_ofLocation {name : String} {loc : Location}
    (h : ∀ n ∈ name :: loc, Disk.IsName n) :
    (ofLocation (name :: loc)).parent? = some (ofLocation loc) := by
  rw [List.forall_mem_cons] at h
  -- parents are taken from the text read backwards, where the last name comes first
  have hreverse : (ofLocation (name :: loc)).text.toList.reverse =
      name.toList.reverse ++ '/' :: (namesText loc).reverse := by
    rw [toList_ofLocation (List.cons_ne_nil name loc), namesText]
    simp
  -- the name ends at the separator in front of it, as it holds none
  have hseparator : ∀ c ∈ name.toList.reverse, decide (c ≠ '/') = true := by
    intro c hc
    refine decide_eq_true fun heq => h.1.no_separator ?_
    rwa [← heq, ← List.mem_reverse]
  have hstop : ∀ c ∈ ('/' :: (namesText loc).reverse).head?, decide (c ≠ '/') = false := by
    intro c hc
    cases hc
    rfl
  have hidle := dropIdle_name h.1 (namesText loc).reverse
  rw [← hreverse] at hidle
  have hrest := Text.dropWhile_append_of_stop hseparator hstop
  -- a name is not empty, so there is a last segment to drop
  cases hname : name.toList.reverse with
  | nil => exact absurd (List.reverse_eq_nil_iff.mp hname) h.1.ne_nil
  | cons c cs =>
    rw [hname, List.cons_append] at hreverse hrest
    have hc : c ≠ '/' := of_decide_eq_true (hseparator c (by rw [hname]; exact List.mem_cons_self))
    rw [parent?_of_dropIdle (hidle.trans hreverse) hc, hrest, dropIdle_namesText h.2,
      String.ofList_toList]

/-- An absolute path of names does not end in a separator. -/
private theorem getLast?_ofLocation {name : String} (loc : Location) (h : Disk.IsName name) :
    (ofLocation (name :: loc)).text.toList.getLast? ≠ some '/' := by
  rw [toList_ofLocation (List.cons_ne_nil name loc), namesText, List.append_cons,
    List.getLast?_append]
  cases hlast : name.toList.getLast? with
  | none => exact absurd (List.getLast?_eq_none_iff.mp hlast) h.ne_nil
  | some c =>
    rw [Option.some_or, ne_eq, Option.some.injEq]
    exact fun heq => h.no_separator (heq ▸ List.mem_of_getLast? hlast)

/-- A name is joined to an absolute path as one more name. -/
theorem join_ofLocation {name : String} {loc : Location} (h : ∀ n ∈ name :: loc, Disk.IsName n) :
    (ofLocation loc).join ⟨name⟩ = ofLocation (name :: loc) := by
  rw [List.forall_mem_cons] at h
  have hrelative : (⟨name⟩ : Path).isAbsolute = false := by
    rw [isAbsolute, beq_eq_false_iff_ne]
    exact fun hhead => h.1.no_separator (List.mem_of_head? hhead)
  rw [join, hrelative, if_neg Bool.false_ne_true]
  cases loc with
  | nil =>
    -- the root ends in the separator that the name stands behind
    rw [if_pos (by rfl)]
    refine congrArg Path.mk (String.toList_inj.mp ?_)
    rw [String.toList_append, String.toList_ofList]
    rfl
  | cons parent loc =>
    have hparent := toList_ofLocation (List.cons_ne_nil parent loc)
    -- any other location ends in a name, so a separator is put in between
    have hlast := getLast?_ofLocation loc (h.2 parent List.mem_cons_self)
    have hempty : (ofLocation (parent :: loc)).text.isEmpty = false := by
      rw [Bool.eq_false_iff, ne_eq, String.isEmpty_iff, ← String.toList_inj, hparent, namesText]
      simp
    rw [hempty, Bool.false_or, if_neg (by simpa using hlast)]
    refine congrArg Path.mk (String.toList_inj.mp ?_)
    rw [String.toList_append, String.toList_append, String.toList_ofList, hparent]
    simp [namesText]

end Path

namespace Disk

/-! ## Walking along an absolute path -/

/-- Every text has a segment. -/
private theorem segments_ne_nil (cs : List Char) : Path.segments cs ≠ [] := by
  cases cs with
  | nil => simp [Path.segments]
  | cons c cs =>
    rw [Path.segments]
    split
    · simp
    · split <;> simp

/-- A text without separators is one segment. -/
private theorem segments_of_no_separator {cs : List Char} (h : '/' ∉ cs) : Path.segments cs =
    [cs] := by
  induction cs with
  | nil => rfl
  | cons c cs ih =>
    rw [List.mem_cons, not_or] at h
    rw [Path.segments, ih h.2, if_neg (by simpa using Ne.symm h.1)]

/-- A separator ends a segment. -/
private theorem segments_append_separator (cs ds : List Char) :
    Path.segments (cs ++ '/' :: ds) = Path.segments cs ++ Path.segments ds := by
  induction cs with
  | nil => rfl
  | cons c cs ih =>
    rw [List.cons_append, Path.segments, Path.segments, ih]
    split
    · rfl
    · -- a character in front goes to the first segment, and there is one
      cases hcs : Path.segments cs with
      | nil => exact absurd hcs (segments_ne_nil cs)
      | cons first rest => rfl

/-- A name leads one step down. -/
private theorem walk_name {d : Disk} {loc : Location} (hdir : d.node? loc = some .directory)
    {name : String} (h : IsName name) : d.walk loc name.toList = .ok (name :: loc) := by
  have hidle : (name.toList == [] || name.toList == ['.']) = false := by
    simp [h.ne_nil, h.ne_dot]
  have hup : (name.toList == ['.', '.']) = false := by simp [h.ne_dots]
  simp only [walk, hdir, hidle, hup, Bool.false_eq_true, if_false, String.ofList_toList]
  exact if_neg (Nat.not_lt.mpr h.size_le)

/-- Walking along the names of a location leads to it. -/
private theorem foldlM_walk_namesText {d : Disk} {loc : Location}
    (hdirs : ∀ k, d.node? (loc.drop (k + 1)) = some .directory) (h : ∀ n ∈ loc, IsName n) :
    (Path.segments (Path.namesText loc)).foldlM d.walk [] = .ok loc := by
  induction loc with
  | nil => rfl
  | cons name loc ih =>
    rw [List.forall_mem_cons] at h
    have hloc := ih (fun k => hdirs (k + 1)) h.2
    rw [Path.namesText, segments_append_separator, List.foldlM_append, hloc,
      segments_of_no_separator h.1.no_separator]
    exact foldlM_walk_cons.mpr ⟨_, walk_name (hdirs 0) h.1, rfl⟩

/-- An absolute path can be looked up if it is short enough. -/
private theorem checkPath_ofLocation {loc : Location} (h : ∀ n ∈ loc, IsName n)
    (hsize : (Path.ofLocation loc).text.utf8ByteSize ≤ longestPath) :
    checkPath (Path.ofLocation loc) = .ok () := by
  -- names have no zero characters, and separators are none
  have hnames : '\x00' ∉ Path.namesText loc := by
    clear hsize
    induction loc with
    | nil => simp [Path.namesText]
    | cons name loc ih =>
      rw [List.forall_mem_cons] at h
      have hname := h.1.no_nul
      simp [Path.namesText, ih h.2, hname]
  -- the root is one separator, and every other path is its names
  have hnul : '\x00' ∉ (Path.ofLocation loc).text.toList := by
    cases loc with
    | nil => decide
    | cons name loc => rwa [Path.toList_ofLocation (List.cons_ne_nil name loc)]
  rw [checkPath, if_neg (by simpa using hnul), if_neg (Nat.not_lt.mpr hsize)]

/-- Fewer names need no more bytes. -/
private theorem size_namesText_drop_le (loc : Location) (k : Nat) :
    (String.ofList (Path.namesText (loc.drop k))).utf8ByteSize ≤
      (String.ofList (Path.namesText loc)).utf8ByteSize := by
  induction loc generalizing k with
  | nil => exact Nat.le_of_eq (by rw [List.drop_nil])
  | cons name loc ih =>
    cases k with
    | zero => exact Nat.le_refl _
    | succ k =>
      rw [List.drop_succ_cons, Path.namesText, String.ofList_append, String.utf8ByteSize_append]
      exact Nat.le_add_right_of_le (ih k)

/-- A path further up is no longer. -/
theorem size_ofLocation_drop_le (name : String) (loc : Location) (k : Nat) :
    (Path.ofLocation (name :: loc.drop k)).text.utf8ByteSize ≤
      (Path.ofLocation (name :: loc)).text.utf8ByteSize := by
  have hsize (l : Location) : (Path.ofLocation (name :: l)).text.utf8ByteSize =
      (String.ofList (Path.namesText l)).utf8ByteSize +
        (String.ofList ('/' :: name.toList)).utf8ByteSize := by
    rw [← String.utf8ByteSize_append, ← String.ofList_append]
    rfl
  rw [hsize, hsize]
  exact Nat.add_le_add_right (size_namesText_drop_le loc k) _

/-- What stands at an absolute path is what stands at its location. -/
theorem find?_ofLocation {d : Disk} {name : String} {loc : Location}
    (hdirs : ∀ k, d.node? (loc.drop k) = some .directory) (h : ∀ n ∈ name :: loc, IsName n)
    (hsize : (Path.ofLocation (name :: loc)).text.utf8ByteSize ≤ longestPath) :
    d.find? (Path.ofLocation (name :: loc)) = d.node? (name :: loc) := by
  have htext := Path.toList_ofLocation (List.cons_ne_nil name loc)
  have hlocate : d.locate (Path.ofLocation (name :: loc)) = .ok (name :: loc) := by
    refine locate_eq_ok.mpr ⟨checkPath_ofLocation h hsize, ?_, ?_⟩
    · rw [htext, Path.namesText]
      simp
    · rw [htext]
      exact foldlM_walk_namesText hdirs h
  rw [find?, hlocate]

end Disk

end VulkanGen
