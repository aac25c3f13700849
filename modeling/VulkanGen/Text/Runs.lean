/-!
# Runs

Scanners take the longest run of characters of a class off the front of a text:
`takeWhile` is the run and `dropWhile` the rest.

* `length_dropWhile_le`        the rest is no longer than the text
* `not_of_dropWhile_eq_cons`   the rest starts outside the class
* `takeWhile_append_of_stop`, `dropWhile_append_of_stop`  a run and what stops it
* `append_inj_of_stop`         a run and what stops it are determined by the text
* `exists_run`                 every text is a run and what stops it
-/

namespace VulkanGen.Text

theorem length_dropWhile_le {α : Type} (p : α → Bool) (xs : List α) :
    (xs.dropWhile p).length ≤ xs.length :=
  (List.dropWhile_suffix p).length_le

theorem not_of_dropWhile_eq_cons {α : Type} {p : α → Bool} {xs ys : List α} {y : α}
    (h : xs.dropWhile p = y :: ys) : p y = false := by
  induction xs with
  | nil => exact nomatch h
  | cons x xs ih =>
    cases hx : p x with
    | true => exact ih (by simpa [hx] using h)
    | false =>
      simp only [List.dropWhile_cons, hx, Bool.false_eq_true, if_false, List.cons.injEq] at h
      rw [← h.1, hx]

theorem dropWhile_eq_nil {α : Type} {p : α → Bool} {xs : List α} (h : ∀ x ∈ xs, p x = true) :
    xs.dropWhile p = [] := by
  rw [← List.append_nil xs, List.dropWhile_append_of_pos h, List.dropWhile_nil]

theorem takeWhile_eq_self {α : Type} {p : α → Bool} {xs : List α} (h : ∀ x ∈ xs, p x = true) :
    xs.takeWhile p = xs := by
  rw [← List.append_nil xs, List.takeWhile_append_of_pos h, List.takeWhile_nil]

/-- A run ends at a character outside the class, whatever follows it. -/
theorem takeWhile_append_cons {α : Type} {p : α → Bool} (xs ys : List α) {y : α}
    (h : p y = false) : (xs ++ y :: ys).takeWhile p = xs.takeWhile p := by
  induction xs with
  | nil => simp [h]
  | cons x xs ih => rw [List.cons_append, List.takeWhile_cons, List.takeWhile_cons, ih]

theorem dropWhile_append_cons {α : Type} {p : α → Bool} (xs ys : List α) {y : α}
    (h : p y = false) : (xs ++ y :: ys).dropWhile p = xs.dropWhile p ++ y :: ys := by
  induction xs with
  | nil => simp [h]
  | cons x xs ih =>
    rw [List.cons_append, List.dropWhile_cons, List.dropWhile_cons, ih]
    split <;> rfl

/-- A run of characters of the class is taken whole where something else follows. -/
theorem takeWhile_append_of_stop {α : Type} {p : α → Bool} {xs ys : List α}
    (hxs : ∀ x ∈ xs, p x = true) (hys : ∀ y ∈ ys.head?, p y = false) :
    (xs ++ ys).takeWhile p = xs := by
  rw [List.takeWhile_append_of_pos hxs]
  cases ys with
  | nil => simp
  | cons y ys => simp [hys y rfl]

theorem dropWhile_append_of_stop {α : Type} {p : α → Bool} {xs ys : List α}
    (hxs : ∀ x ∈ xs, p x = true) (hys : ∀ y ∈ ys.head?, p y = false) :
    (xs ++ ys).dropWhile p = ys := by
  rw [List.dropWhile_append_of_pos hxs]
  cases ys with
  | nil => rfl
  | cons y ys => simp [hys y rfl]

/-- Two texts that are the same have the same run and the same rest. -/
theorem append_inj_of_stop {α : Type} {p : α → Bool} {xs xs' ys ys' : List α}
    (hxs : ∀ x ∈ xs, p x = true) (hxs' : ∀ x ∈ xs', p x = true)
    (hys : ∀ y ∈ ys.head?, p y = false) (hys' : ∀ y ∈ ys'.head?, p y = false)
    (h : xs ++ ys = xs' ++ ys') : xs = xs' ∧ ys = ys' := by
  have hrun := congrArg (List.takeWhile p) h
  have hrest := congrArg (List.dropWhile p) h
  rw [takeWhile_append_of_stop hxs hys, takeWhile_append_of_stop hxs' hys'] at hrun
  rw [dropWhile_append_of_stop hxs hys, dropWhile_append_of_stop hxs' hys'] at hrest
  exact ⟨hrun, hrest⟩

/-- A text is its run of characters of the class, followed by nothing or by
something else. -/
theorem exists_run {α : Type} (p : α → Bool) (zs : List α) :
    ∃ xs ys, zs = xs ++ ys ∧ (∀ x ∈ xs, p x = true) ∧ (∀ y ∈ ys.head?, p y = false) ∧
      zs.takeWhile p = xs ∧ zs.dropWhile p = ys := by
  refine ⟨zs.takeWhile p, zs.dropWhile p, List.takeWhile_append_dropWhile.symm,
    List.all_eq_true.mp List.all_takeWhile, ?_, rfl, rfl⟩
  intro y hy
  obtain ⟨ys, hys⟩ := List.head?_eq_some_iff.mp hy
  exact not_of_dropWhile_eq_cons hys

end VulkanGen.Text
