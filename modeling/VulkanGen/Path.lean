import VulkanGen.Text.Runs

/-!
# Paths

A path is the text it was written as: joining and taking parents never resolve
`.` or `..`, so messages show paths as they came about.  Taking a parent drops
the last segment together with the idle ones (`/`, `/.`) around it.

* `join_of_absolute`  an absolute path stands for itself
* `ancestors_eq`      a path's ancestors are the path and those of its parent
-/

namespace VulkanGen

/-- The text of a path, with `/` between its segments. -/
structure Path where
  text : String
  deriving DecidableEq, Repr, Inhabited

namespace Path

/-- Whether a path starts at the root. -/
def isAbsolute (p : Path) : Bool :=
  p.text.toList.head? == some '/'

/-- The path `q` as seen from `p`: `q` itself if it is absolute, and otherwise
both with a separator between them where one is needed. -/
def join (p q : Path) : Path :=
  if q.isAbsolute then q
  else if p.text.isEmpty || p.text.toList.getLast? == some '/' then ⟨p.text ++ q.text⟩
  else ⟨p.text ++ "/" ++ q.text⟩

/-- The segments between the separators, the empty ones included. -/
def segments : List Char → List (List Char)
  | [] => [[]]
  | c :: cs =>
    if c == '/' then [] :: segments cs
    else
      match segments cs with
      | [] => [[c]]
      | first :: rest => (c :: first) :: rest

/-- A text read backwards without the idle segments it ends in: separators and
single dots behind one.  A separator that is the whole text stays. -/
def dropIdle : List Char → List Char
  | '/' :: rest => if rest.isEmpty then ['/'] else dropIdle rest
  | '.' :: rest => if rest.head? == some '/' then dropIdle rest else '.' :: rest
  | cs => cs

theorem length_dropIdle_le (cs : List Char) : (dropIdle cs).length ≤ cs.length := by
  -- idle segments go one character at a time, so the induction is on the text
  induction cs with
  | nil => simp [dropIdle]
  | cons c cs ih =>
    unfold dropIdle
    split
    · next rest heq =>
      cases heq
      split
      · simp
      · simp only [List.length_cons]
        omega
    · next rest heq =>
      cases heq
      split
      · simp only [List.length_cons]
        omega
      · simp
    · simp

/-- The path without its last segment; the root and the empty path have no parent. -/
def parent? (p : Path) : Option Path :=
  match dropIdle p.text.toList.reverse with
  | [] => none
  | ['/'] => none
  | c :: cs => some ⟨.ofList (dropIdle ((c :: cs).dropWhile (· ≠ '/'))).reverse⟩

/-- The last segment, unless it leads upwards. -/
def fileName? (p : Path) : Option String :=
  match dropIdle p.text.toList.reverse with
  | [] => none
  | ['/'] => none
  | c :: cs =>
    let name := ((c :: cs).takeWhile (· ≠ '/')).reverse
    if name == ['.', '.'] then none else some (.ofList name)

/-- Taking a parent shortens the text. -/
theorem length_parent?_lt {p q : Path} (h : p.parent? = some q) :
    q.text.toList.length < p.text.toList.length := by
  have hle := length_dropIdle_le p.text.toList.reverse
  simp only [parent?] at h
  split at h
  · exact nomatch h
  · exact nomatch h
  -- both texts that have no parent are ruled out, so there is a character to drop
  next c cs hroot heq =>
    rw [heq, List.length_reverse] at hle
    cases h
    simp only [String.toList_ofList, List.length_reverse]
    -- a text that still ends in a separator could lose nothing here
    by_cases hc : c = '/'
    · subst hc
      cases cs with
      | nil => exact (hroot rfl rfl).elim
      | cons d ds =>
        exfalso
        exact not_slash_of_dropIdle _ heq
    · -- the last character belongs to a segment, which is dropped with it
      have h₁ := length_dropIdle_le ((c :: cs).dropWhile (· ≠ '/'))
      have h₂ := Text.length_dropWhile_le (fun d : Char => decide (d ≠ '/')) cs
      have h₃ : (c :: cs).dropWhile (· ≠ '/') = cs.dropWhile (· ≠ '/') := by simp [hc]
      rw [h₃] at h₁ ⊢
      simp only [List.length_cons] at hle
      omega
where
  /-- Nothing but the root ends in a separator once its idle segments are gone. -/
  not_slash_of_dropIdle {d : Char} {ds : List Char} (xs : List Char)
      (h : dropIdle xs = '/' :: d :: ds) : False := by
    -- a separator in front is idle if more stands behind it, so it would have been dropped
    induction xs with
    | nil => exact nomatch h
    | cons x xs ih =>
      unfold dropIdle at h
      split at h
      · next rest hrest =>
        cases hrest
        split at h
        · exact nomatch h
        · exact ih h
      · next rest hrest =>
        cases hrest
        split at h
        · exact ih h
        · exact nomatch h
      · next hslash _ =>
        cases h
        exact hslash _ rfl

/-- A path, its parent, and so on up to the last one that has no parent. -/
def ancestors (p : Path) : List Path :=
  match _h : p.parent? with
  | none => [p]
  | some q => p :: ancestors q
termination_by p.text.toList.length
decreasing_by
  apply length_parent?_lt
  assumption

theorem ancestors_eq (p : Path) :
    p.ancestors = p :: (p.parent?.map ancestors).getD [] := by
  rw [ancestors]
  split <;> simp [*]

theorem join_of_absolute (p : Path) {q : Path} (h : q.isAbsolute = true) : p.join q = q := by
  simp only [join, h, if_true]

example : (Path.join ⟨"/a"⟩ ⟨"b"⟩).text = "/a/b" := by decide
example : (Path.join ⟨"/a"⟩ ⟨""⟩).text = "/a/" := by decide
example : (Path.parent? ⟨"/a/./b.toml"⟩).map (·.text) = some "/a" := by decide
example : (Path.parent? ⟨"/a/.."⟩).map (·.text) = some "/a" := by decide
example : (Path.parent? ⟨"/a"⟩).map (·.text) = some "/" := by decide
example : Path.fileName? ⟨"/a/b.h/."⟩ = some "b.h" := by decide

end Path

end VulkanGen
