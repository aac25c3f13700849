import Mathlib.Data.List.Nodup

/-!
# List lemmas

General lemmas about lists, on elements that are in an order, are looked up by a key, are
taken out, or are joined with something between them.

## Key results

- `List.flatMap_filter_eq_filter`: what is filtered part by part is in order
- `List.find?_key_iff`: when the first element of a key is the one at an index
- `List.intercalate_cons_eq`, `List.intercalate_concat`: one more element at either end
-/

namespace List

variable {α : Type}

/-! ## Elements in order -/

/-- What is in the strict order of a number is told apart by it. -/
theorem eq_of_ascending {f : α → Nat} {xs : List α} (h : xs.Pairwise fun a b => f a < f b)
    {a b : α} (ha : a ∈ xs) (hb : b ∈ xs) (hab : f a = f b) : a = b := by
  have hnodup : (xs.map f).Nodup := by
    unfold Nodup
    rw [pairwise_map]
    exact h.imp fun hlt => Nat.ne_of_lt hlt
  exact inj_on_of_nodup_map hnodup ha hb hab

/-- Of a list no two elements of which have a property, one element has it at most. -/
theorem countP_le_one {p : α → Bool} {xs : List α}
    (h : xs.Pairwise fun x y => p x = true → p y = false) : xs.countP p ≤ 1 := by
  induction xs with
  | nil => exact Nat.zero_le 1
  | cons x xs ih =>
    rw [pairwise_cons] at h
    cases hp : p x with
    | false =>
      rw [countP_cons_of_neg (by simp [hp])]
      exact ih h.2
    -- the first element has the property, so no later one does
    | true =>
      have hnone : xs.countP p = 0 := countP_eq_zero.mpr fun y hy =>
        Bool.eq_false_iff.mp (h.1 y hy hp)
      have hone : (x :: xs).countP p = 1 := by rw [countP_cons_of_pos hp, hnone]
      exact Nat.le_of_eq hone

/-- Two filters one after the other take what both take together, if what the second one
takes stands behind what the first one takes. -/
theorem filter_append_filter {p q : α → Bool} {xs : List α}
    (hboth : ∀ x ∈ xs, p x = true → q x = false)
    (horder : xs.Pairwise fun x y => q x = true → p y = false) :
    xs.filter p ++ xs.filter q = xs.filter fun x => p x || q x := by
  induction xs with
  | nil => rfl
  | cons x xs ih =>
    rw [forall_mem_cons] at hboth
    rw [pairwise_cons] at horder
    have htail := ih hboth.2 horder.2
    cases hp : p x with
    -- an element of the first filter goes to the front on both sides
    | true =>
      have hq := hboth.1 hp
      rw [filter_cons_of_pos hp, filter_cons_of_neg (by simp [hq]),
        filter_cons_of_pos (by simp [hp]), cons_append, htail]
    | false =>
      cases hq : q x with
      | true =>
        -- from here on the first filter takes nothing
        have hnone : xs.filter p = [] := filter_eq_nil_iff.mpr fun y hy =>
          Bool.eq_false_iff.mp (horder.1 y hy hq)
        rw [hnone, nil_append] at htail
        rw [filter_cons_of_neg (by simp [hp]), hnone, nil_append, filter_cons_of_pos hq,
          filter_cons_of_pos (by simp [hq]), htail]
      | false =>
        rw [filter_cons_of_neg (by simp [hp]), filter_cons_of_neg (by simp [hq]),
          filter_cons_of_neg (by simp [hp, hq]), htail]

/-- What parts take of a list that is in the order of a number, part by part, is in that
order too, if the parts are. -/
theorem flatMap_filter_eq_filter {β : Type} {f : α → Nat} {xs : List α} {bs : List β}
    {takes : β → Nat → Bool} (hxs : xs.Pairwise fun x y => f x < f y)
    (hbs : bs.Pairwise fun b c => ∀ m n, takes b m = true → takes c n = true → m < n) :
    (bs.flatMap fun b => xs.filter fun x => takes b (f x)) =
      xs.filter fun x => bs.any fun b => takes b (f x) := by
  induction bs with
  | nil => simp
  | cons b bs ih =>
    rw [pairwise_cons] at hbs
    rw [flatMap_cons, ih hbs.2]
    -- whatever a later part takes comes behind all that this one takes
    have hlater : ∀ x y, takes b (f y) = true → (bs.any fun c => takes c (f x)) = true →
        f y < f x := by
      intro x y hy hx
      obtain ⟨c, hc, hcx⟩ := any_eq_true.mp hx
      exact hbs.1 c hc _ _ hy hcx
    -- no element is taken twice, and what later parts take comes later in the list
    rw [filter_append_filter]
    · simp only [any_cons]
    · intro x _ hx
      rw [Bool.eq_false_iff]
      intro hany
      exact Nat.lt_irrefl _ (hlater x x hx hany)
    · refine hxs.imp fun hlt hany => ?_
      rw [Bool.eq_false_iff]
      intro hy
      have hgt := hlater _ _ hy hany
      omega

/-! ## Looking up and taking out -/

/-- Looking for the key of an element finds the element if none in front of it has the
same key. -/
theorem find?_key_iff (key : α → String) {xs : List α} (hnodup : xs.Nodup) {i : Nat}
    {x : α} (hx : xs[i]? = some x) :
    xs.find? (key · == key x) = some x ↔ key x ∉ (xs.map key).take i := by
  obtain ⟨hi, rfl⟩ := getElem?_eq_some_iff.mp hx
  simp only [find?_eq_some_iff_getElem, beq_self_eq_true, true_and, Bool.not_eq_true',
    beq_eq_false_iff_ne, ← map_take, mem_map, mem_take_iff_getElem]
  constructor
  · rintro ⟨j, hj, hsame, hbefore⟩ ⟨y, ⟨k, hk, rfl⟩, hkey⟩
    -- the element that is found is the one at the index, since it is nowhere else
    have hij : j = i := (hnodup.getElem_inj_iff).mp hsame
    exact hbefore k (by omega) hkey
  · -- nothing in front of the index has the key, so the search gets there
    intro hnone
    refine ⟨i, hi, rfl, fun j hj hkey => hnone ⟨xs[j], ⟨j, by omega, rfl⟩, hkey⟩⟩

/-- Every element is found by its key if no two have the same. -/
theorem forall_find?_key_iff (key : α → String) {xs : List α} (hnodup : xs.Nodup) :
    (∀ x ∈ xs, xs.find? (key · == key x) = some x) ↔ (xs.map key).Nodup := by
  constructor
  · -- of two elements with one key, the later one would not be found
    intro hall
    rw [Nodup, pairwise_iff_getElem]
    intro i j hi hj hij heq
    rw [length_map] at hi hj
    rw [getElem_map, getElem_map] at heq
    have hfound := hall xs[j] (getElem_mem hj)
    rw [find?_key_iff key hnodup (getElem?_eq_getElem hj)] at hfound
    rw [← heq, ← map_take] at hfound
    exact hfound (mem_map_of_mem (mem_take_iff_getElem.mpr ⟨i, by omega, rfl⟩))
  · intro hkeys x hx
    obtain ⟨i, hi, rfl⟩ := getElem_of_mem hx
    -- the element stands behind the front, where its key does not occur
    have hbehind : xs[i] ∈ xs.drop i := drop_eq_getElem_cons hi ▸ mem_cons_self
    rw [find?_key_iff key hnodup (getElem?_eq_getElem hi), ← map_take]
    rw [← take_append_drop i xs, map_append, nodup_append'] at hkeys
    exact fun hbefore => hkeys.2.2 hbefore (mem_map_of_mem hbehind)

/-- Taking a position out joins what stands on its two sides. -/
theorem eraseIdx_length_append (before : List α) (x : α) (behind : List α) :
    (before ++ x :: behind).eraseIdx before.length = before ++ behind := by
  simp [eraseIdx_append_of_length_le]

/-! ## Joining -/

/-- Each further element is joined behind the separator. -/
theorem intercalate_cons_eq (separator x : List α) (xs : List (List α)) :
    separator.intercalate (x :: xs) = x ++ xs.flatMap (separator ++ ·) := by
  induction xs generalizing x with
  | nil => rw [intercalate_singleton, flatMap_nil, append_nil]
  | cons y ys ih => rw [intercalate_cons_cons, ih, flatMap_cons]; simp

/-- One more element is joined by one more separator. -/
theorem intercalate_concat (separator : List α) {lines : List (List α)} (h : lines ≠ [])
    (line : List α) :
    separator.intercalate (lines ++ [line]) = separator.intercalate lines ++ separator ++ line := by
  induction lines with
  | nil => exact absurd rfl h
  | cons first lines ih =>
    -- a separator comes in front of a second element only
    cases lines with
    | nil => simp
    | cons second lines =>
      have hlater := ih (cons_ne_nil second lines)
      rw [cons_append, cons_append, intercalate_cons_cons, ← cons_append, hlater,
        intercalate_cons_cons]
      simp only [append_assoc]

/-- What is in a joined list is in a separator or in an element. -/
theorem mem_intercalate {separator : List α} {items : List (List α)} {c : α}
    (h : c ∈ separator.intercalate items) :
    c ∈ separator ∨ ∃ item ∈ items, c ∈ item := by
  cases items with
  | nil => exact absurd h not_mem_nil
  | cons first items =>
    rw [intercalate_cons_eq, mem_append, mem_flatMap] at h
    rcases h with hfirst | ⟨item, hitem, hc⟩
    · exact .inr ⟨first, mem_cons_self, hfirst⟩
    · exact (mem_append.mp hc).imp_right fun hc => ⟨item, mem_cons_of_mem _ hitem, hc⟩

end List
