import Mathlib.Data.List.Induction
import Mathlib.Data.List.Nodup

/-!
# First occurrences

`List.eraseDups` keeps each element where it is met first, and `List.eraseDupsBy`
does the same for what a function shows of the elements.  Both are built up from the
left: one more element at the end is kept exactly if it is new.

## Key results

- `List.eraseDupsBy_concat`, `List.eraseDups_concat`: one more element at the end
- `List.nodup_map_eraseDupsBy`, `List.nodup_eraseDups`: nothing is left twice
- `List.eraseDups_filter`: elements may be left out before or after
-/

namespace List

variable {α β : Type} [DecidableEq β]

/-- One more element at the end is left out exactly if what it shows was shown before. -/
theorem eraseDupsBy_concat (f : α → β) (xs : List α) (x : α) :
    (xs ++ [x]).eraseDupsBy (fun s t => f s == f t) =
      if f x ∈ xs.map f then xs.eraseDupsBy (fun s t => f s == f t)
      else xs.eraseDupsBy (fun s t => f s == f t) ++ [x] := by
  -- the first element takes some of the others away, so the induction is on the length
  induction h : xs.length using Nat.strongRecOn generalizing xs with
  | ind n ih =>
    subst h
    cases xs with
    | nil => rfl
    | cons a as =>
      rw [cons_append, eraseDupsBy_cons, eraseDupsBy_cons, filter_append]
      -- what `a` shows is taken out behind it, so it decides on `x` if both show the same
      by_cases hx : f x = f a
      · simp [hx]
      · have hlt := length_filter_le (fun b => decide ((f b == f a) = false)) as
        have hkept : [x].filter (fun b => decide ((f b == f a) = false)) = [x] := by simp [hx]
        -- otherwise taking it out does not change whether `x` is shown
        have hmem : f x ∈ (as.filter fun b => decide ((f b == f a) = false)).map f ↔
            f x ∈ (a :: as).map f := by
          constructor
          · intro h
            obtain ⟨b, hb, hbx⟩ := mem_map.mp h
            exact mem_map.mpr ⟨b, mem_cons_of_mem a (mem_filter.mp hb).1, hbx⟩
          · intro h
            obtain ⟨b, hb, hbx⟩ := mem_map.mp h
            rcases mem_cons.mp hb with rfl | hb
            · exact absurd hbx.symm hx
            · exact mem_map.mpr ⟨b, mem_filter.mpr ⟨hb, by simp [hbx, hx]⟩, hbx⟩
        rw [hkept, ih _ (by simp only [length_cons]; omega) _ rfl]
        simp only [hmem]
        split <;> rfl

/-- Everything that is shown is shown by an element that is left. -/
theorem mem_map_eraseDupsBy (f : α → β) (xs : List α) (b : β) :
    b ∈ (xs.eraseDupsBy fun s t => f s == f t).map f ↔ b ∈ xs.map f := by
  induction xs using reverseRecOn with
  | nil => rfl
  -- from the end, as an element is left out because of earlier ones
  | append_singleton xs x ih =>
    rw [eraseDupsBy_concat]
    split
    · next hx =>
      rw [ih, map_append, mem_append]
      simp only [map_cons, map_nil, mem_singleton]
      grind
    · rw [map_append, map_append, mem_append, mem_append, ih]

/-- What is left was there. -/
theorem eraseDupsBy_subset (f : α → β) (xs : List α) :
    (xs.eraseDupsBy fun s t => f s == f t) ⊆ xs := by
  induction xs using reverseRecOn with
  | nil => exact Subset.refl []
  | append_singleton xs x ih =>
    rw [eraseDupsBy_concat]
    have hkept := Subset.trans ih (subset_append_left xs [x])
    split
    · exact hkept
    · exact append_subset.mpr ⟨hkept, subset_append_right xs [x]⟩

/-- What is left shows everything once. -/
theorem nodup_map_eraseDupsBy (f : α → β) (xs : List α) :
    ((xs.eraseDupsBy fun s t => f s == f t).map f).Nodup := by
  induction xs using reverseRecOn with
  | nil => exact nodup_nil
  | append_singleton xs x ih =>
    rw [eraseDupsBy_concat]
    split
    · exact ih
    · next hx =>
      -- `x` is kept, so what it shows is not among what is left
      rw [← mem_map_eraseDupsBy] at hx
      rw [map_append, map_singleton]
      exact nodup_append_comm.mp (nodup_cons.mpr ⟨hx, ih⟩)

/-- One more element at the end is left out exactly if it was there before. -/
theorem eraseDups_concat (xs : List β) (x : β) :
    (xs ++ [x]).eraseDups = if x ∈ xs then xs.eraseDups else xs.eraseDups ++ [x] := by
  have h := eraseDupsBy_concat id xs x
  rw [map_id] at h
  exact h

/-- What is left has no repetitions. -/
theorem nodup_eraseDups (xs : List β) : xs.eraseDups.Nodup := by
  have h := nodup_map_eraseDupsBy id xs
  rw [map_id] at h
  exact h

/-- Elements may be left out before the repetitions are, or after. -/
theorem eraseDups_filter (p : β → Bool) (xs : List β) :
    (xs.filter p).eraseDups = xs.eraseDups.filter p := by
  induction xs using reverseRecOn with
  | nil => rfl
  | append_singleton xs x ih =>
    rw [filter_append, eraseDups_concat]
    -- an element that `p` drops is dropped on both sides, if it is not a repetition before
    cases hp : p x with
    | false =>
      rw [filter_singleton, hp, cond_false, append_nil, ih]
      split
      · rfl
      · rw [filter_append, filter_singleton, hp, cond_false, append_nil]
    | true =>
      -- an element that is kept is a repetition in the one list if it is one in the other
      have hmem : x ∈ xs.filter p ↔ x ∈ xs := by rw [mem_filter, hp]; simp
      rw [filter_singleton, hp, cond_true, eraseDups_concat, ih]
      simp only [hmem]
      split
      · rfl
      · rw [filter_append, filter_singleton, hp, cond_true]

end List
