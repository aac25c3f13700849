import Mathlib.Order.Basic
import VulkanGen.Header
import VulkanGen.Proofs.Block.Regions

/-!
# Where a prototypes region ends

A region of a block ends at the first line behind its guard that starts with `#endif`.
That is the line that closes the guard's own conditional exactly if no other conditional
stands inside the region: behind an inner one the lines, and the declarations on them,
are lost.

## Key results

- `Conditional.countP_insideLengthFrom?`: as many conditionals are opened as are closed
- `regions_iff`, `Header.region_ends_iff`: when all regions run to the `#endif` of their
  guards
-/

namespace VulkanGen.Block

open Conditional

/-! ## Conditionals -/

namespace Conditional

variable {lines ls : List (List Char)} {line : List Char} {depth k g m : Nat}

/-- A line that closes the conditional ends it. -/
private theorem insideLengthFrom?_of_ends (rest : List (List Char)) (h : closes line = true) :
    insideLengthFrom? 0 (line :: rest) = some 0 := by
  rw [insideLengthFrom?, if_pos h]

/-- A line that closes another conditional is inside, with one less to be closed. -/
private theorem insideLengthFrom?_of_closes (rest : List (List Char)) (h : closes line = true) :
    insideLengthFrom? (depth + 1) (line :: rest) = (insideLengthFrom? depth rest).map (· + 1) := by
  rw [insideLengthFrom?, if_pos h]

/-- A line that opens one is inside, with one more to be closed. -/
private theorem insideLengthFrom?_of_opens (rest : List (List Char)) (h : opens line = true) :
    insideLengthFrom? depth (line :: rest) = (insideLengthFrom? (depth + 1) rest).map (· + 1) := by
  have hcloses : ¬closes line = true := fun hcloses =>
    Bool.false_ne_true ((not_opens_of_closes line hcloses).symm.trans h)
  rw [insideLengthFrom?.eq_def]
  dsimp only
  rw [if_neg hcloses, if_pos h]

/-- Any other line is inside. -/
private theorem insideLengthFrom?_of_other (rest : List (List Char)) (hcloses : ¬closes line = true)
    (hopens : ¬opens line = true) :
    insideLengthFrom? depth (line :: rest) = (insideLengthFrom? depth rest).map (· + 1) := by
  rw [insideLengthFrom?.eq_def]
  dsimp only
  rw [if_neg hcloses, if_neg hopens]

/-- A conditional ends at a line that closes one, and the lines inside close those that
they open and the `depth` others. -/
theorem countP_insideLengthFrom? (h : insideLengthFrom? depth ls = some k) :
    (ls[k]?).any closes = true ∧
      (ls.take k).countP closes = depth + (ls.take k).countP opens := by
  -- along the recursion: a line ends the conditional, closes one, opens one, or does neither
  induction ls generalizing depth k with
  | nil => exact nomatch h
  | cons line rest ih =>
    by_cases hcloses : closes line = true
    · cases depth with
      -- with no other conditional open, this line is the end that is looked for
      | zero =>
        rw [insideLengthFrom?_of_ends rest hcloses] at h
        obtain rfl := Option.some.inj h
        simp [hcloses]
      | succ depth =>
        rw [insideLengthFrom?_of_closes rest hcloses] at h
        obtain ⟨j, hj, rfl⟩ := Option.map_eq_some_iff.mp h
        obtain ⟨hend, hcount⟩ := ih hj
        have hopens := not_opens_of_closes line hcloses
        refine ⟨hend, ?_⟩
        simp only [List.take_succ_cons, List.countP_cons, hcloses, hopens, hcount, if_true,
          Bool.false_eq_true, if_false]
        omega
    · by_cases hopens : opens line = true
      · rw [insideLengthFrom?_of_opens rest hopens] at h
        obtain ⟨j, hj, rfl⟩ := Option.map_eq_some_iff.mp h
        obtain ⟨hend, hcount⟩ := ih hj
        refine ⟨hend, ?_⟩
        simp only [List.take_succ_cons, List.countP_cons, hcloses, hopens, hcount, if_true,
          Bool.false_eq_true, if_false]
        omega
      · rw [insideLengthFrom?_of_other rest hcloses hopens] at h
        obtain ⟨j, hj, rfl⟩ := Option.map_eq_some_iff.mp h
        obtain ⟨hend, hcount⟩ := ih hj
        refine ⟨hend, ?_⟩
        simp only [List.take_succ_cons, List.countP_cons, hcloses, hopens, hcount,
          Bool.false_eq_true, if_false]
        omega

/-- Where all conditionals are closed, each of those that are open ends. -/
private theorem exists_insideLengthFrom? {others : Nat} (h : balancedFrom depth ls = true)
    (hothers : others < depth) : ∃ k, insideLengthFrom? others ls = some k := by
  -- the two counts move together, so the difference between them stays
  induction ls generalizing depth others with
  | nil =>
    -- a balanced list cannot end inside the conditional
    rw [balancedFrom, beq_iff_eq] at h
    omega
  | cons line rest ih =>
    rw [balancedFrom] at h
    by_cases hopens : opens line = true
    · rw [if_pos hopens] at h
      obtain ⟨k, hk⟩ := ih h (Nat.succ_lt_succ hothers)
      exact ⟨k + 1, by rw [insideLengthFrom?_of_opens rest hopens, hk]; rfl⟩
    · rw [if_neg hopens] at h
      by_cases hcloses : closes line = true
      · rw [if_pos hcloses, Bool.and_eq_true] at h
        cases others with
        | zero => exact ⟨0, insideLengthFrom?_of_ends rest hcloses⟩
        | succ others =>
          obtain ⟨k, hk⟩ := ih h.2 (show others < depth - 1 by omega)
          exact ⟨k + 1, by rw [insideLengthFrom?_of_closes rest hcloses, hk]; rfl⟩
      · rw [if_neg hcloses] at h
        obtain ⟨k, hk⟩ := ih h hothers
        exact ⟨k + 1, by rw [insideLengthFrom?_of_other rest hcloses hopens, hk]; rfl⟩

/-- Behind some lines, the conditionals that are open there are closed. -/
private theorem exists_balancedFrom_drop (h : balancedFrom depth ls = true) (i : Nat) :
    ∃ depth', balancedFrom depth' (ls.drop i) = true := by
  induction ls generalizing depth i with
  | nil => exact ⟨depth, by rw [List.drop_nil]; exact h⟩
  | cons line rest ih =>
    -- the depth behind the first line is what the rest is balanced from
    cases i with
    | zero => exact ⟨depth, h⟩
    | succ i =>
      rw [balancedFrom] at h
      split at h
      · exact ih h i
      · split at h
        · exact ih (Bool.and_eq_true_iff.mp h).2 i
        · exact ih h i

/-- The number of the line that closes the conditional which a line opens. -/
def matching? (lines : List (List Char)) (g : Nat) : Option Nat :=
  (insideLength? (lines.drop g)).map (g + · + 1)

/-- A conditional that is opened is closed. -/
private theorem exists_matching? (h : Balanced lines) (hopens : At opens lines g) :
    ∃ m, matching? lines g = some m := by
  cases g with
  | zero => exact hopens.elim
  | succ i =>
    obtain ⟨line, hline, hopens⟩ := exists_of_at hopens
    obtain ⟨hlt, hline⟩ := List.getElem?_eq_some_iff.mp hline
    obtain ⟨depth, hdrop⟩ := exists_balancedFrom_drop h i
    -- the line itself is one of those behind line `i`, and counts
    rw [List.drop_eq_getElem_cons hlt, hline, balancedFrom, if_pos hopens] at hdrop
    obtain ⟨k, hk⟩ := exists_insideLengthFrom? hdrop (Nat.succ_pos depth)
    exact ⟨i + 1 + k + 1, by rw [matching?, insideLength?, hk]; rfl⟩

/-- Lines between two numbers, as a part of the list. -/
private theorem exists_at_iff (p : List Char → Bool) :
    (∃ n, g < n ∧ n < g + k + 1 ∧ At p lines n) ↔ 0 < ((lines.drop g).take k).countP p := by
  rw [List.countP_pos_iff]
  constructor
  · -- a line with a number behind `g` stands in the part, `g` positions further up
    intro ⟨n, hgn, hnk, hat⟩
    obtain ⟨i, rfl⟩ : ∃ i, n = i + 1 := ⟨n - 1, by omega⟩
    obtain ⟨line, hline, hp⟩ := exists_of_at hat
    refine ⟨line, List.mem_of_getElem? (i := i - g) ?_, hp⟩
    rw [List.getElem?_take_of_lt (by omega), List.getElem?_drop, ← hline]
    congr 1
    omega
  · -- and a line of the part stands that many positions further down
    intro ⟨line, hmem, hp⟩
    obtain ⟨j, hj⟩ := List.mem_iff_getElem?.mp hmem
    have hjk : j < k := by
      have hlt := (List.getElem?_eq_some_iff.mp hj).1
      exact Nat.lt_of_lt_of_le hlt (List.length_take_le _ _)
    rw [List.getElem?_take_of_lt hjk, List.getElem?_drop] at hj
    exact ⟨g + j + 1, by omega, by omega, (at_succ_iff hj).mpr hp⟩

/-- A conditional is closed below the line that opens it, and a conditional is opened
inside it iff one is closed there. -/
private theorem matching?_eq_some (h : matching? lines g = some m) :
    g < m ∧ At closes lines m ∧
      ((∃ n, g < n ∧ n < m ∧ At opens lines n) ↔ ∃ n, g < n ∧ n < m ∧ At closes lines n) := by
  obtain ⟨k, hk, rfl⟩ := Option.map_eq_some_iff.mp h
  obtain ⟨hend, hcount⟩ := countP_insideLengthFrom? hk
  rw [List.getElem?_drop] at hend
  rw [Nat.zero_add] at hcount
  refine ⟨by omega, hend, ?_⟩
  rw [exists_at_iff, exists_at_iff, hcount]

end Conditional

/-! ## Regions and conditionals -/

/-- Whether a line guards a region of a block up to the line that closes its own
conditional: it is the block's, and stands in no other prototypes region. -/
structure IsRegion (lines : List (List Char)) (b : Block) (g m : Nat) : Prop where
  guard : At isGuard lines g
  below : b.line < g
  own : ∀ k, b.line < k → k < g → ¬At opensBlock lines k
  ends : matching? lines g = some m
  outermost : ∀ g' m', At isGuard lines g' → matching? lines g' = some m' → g' < g → m' ≤ g

/-- No line inside a prototypes region has a property. -/
def NoneInside (p : List Char → Bool) (lines : List (List Char)) : Prop :=
  ∀ g m, At isGuard lines g → matching? lines g = some m → ∀ k, g < k → k < m → ¬At p lines k

/-- Only the lines that there are need to be looked at. -/
private theorem noneInside_iff :
    NoneInside p lines ↔ ∀ g ≤ lines.length, ∀ k ≤ lines.length, At isGuard lines g →
      At p lines k → g < k → (matching? lines g).all (· ≤ k) = true := by
  simp only [Option.all_eq_true, decide_eq_true_eq]
  constructor
  · intro h g _ k _ hguard hp hgk m hm
    by_contra hkm
    exact h g m hguard hm k hgk (Nat.lt_of_not_le hkm) hp
  · intro h g m hguard hm k hgk hkm hp
    have hmk := h g hguard.le_length k hp.le_length hguard hp hgk m hm
    exact Nat.not_lt_of_le hmk hkm

/-- It can be decided, since only the lines that there are matter. -/
instance (p : List Char → Bool) (lines : List (List Char)) : Decidable (NoneInside p lines) :=
  decidable_of_iff _ noneInside_iff.symm

variable {lines : List (List Char)} {p : List Char → Bool} {b : Block} {g m : Nat}

/-- Where all conditionals are closed, no region is open at the end. -/
private theorem not_openBehind_length (h : Balanced lines) (s : Nat) :
    ¬OpenBehind lines s lines.length := by
  intro ⟨g, _, _, hguard, hopen⟩
  obtain ⟨m, hm⟩ := exists_matching? h (hguard.imp opens_of_isGuard)
  obtain ⟨hgm, hcloses, _⟩ := matching?_eq_some hm
  exact hopen m hgm hcloses.le_length hcloses

/-- Where no region of a block holds a conditional, no guard of the block is nested. -/
private theorem isRegion_of_flat (hopening : NoneInside opensBlock lines)
    (hb : At opensBlock lines b.line)
    (hflat : ∀ g m, IsRegion lines b g m → ∀ k, g < k → k < m → ¬At opens lines k)
    (hguard : At isGuard lines g) (hbelow : b.line < g)
    (hown : ∀ k, b.line < k → k < g → ¬At opensBlock lines k) (hm : matching? lines g = some m) :
    IsRegion lines b g m := by
  -- on the line of the guard: the guard of an outer region stands further up
  induction g using Nat.strongRecOn generalizing m with
  | ind g ih =>
    refine ⟨hguard, hbelow, hown, hm, fun g' m' hguard' hm' hlt => ?_⟩
    by_contra hinside
    rw [Nat.not_le] at hinside
    -- the outer guard is a guard of the same block, since its region opens none
    have hbelow' : b.line < g' := by
      have hne : g' ≠ b.line := fun heq =>
        hguard'.not_at not_opensBlock_of_isGuard (heq ▸ hb)
      by_contra hle
      exact hopening g' m' hguard' hm' b.line (by omega) (by omega) hb
    have houter := ih g' hlt hguard' hbelow' (fun k hk hkg => hown k hk (by omega)) hm'
    exact hflat g' m' houter g hlt hinside (hguard.imp opens_of_isGuard)

/-- The regions of blocks run to the ends of their guards' conditionals exactly if they
hold no other conditional. -/
theorem regions_iff (hbalanced : Balanced lines) (hopening : NoneInside opensBlock lines)
    (hb : b ∈ ofLines lines) :
    (∀ n ≤ lines.length,
      (b.contains n = true ↔ ∃ g m, IsRegion lines b g m ∧ g < n ∧ n < m)) ↔
    ∀ g m, IsRegion lines b g m → ∀ k, g < k → k < m → ¬At opens lines k := by
  -- what the scanner gives a block, with nothing open at the end
  have hscan : ∀ n ≤ lines.length, (b.contains n = true ↔
      Inside lines b.line n ∧ ∀ k, b.line < k → k ≤ n → ¬At opensBlock lines k) := fun n hn =>
    contains_iff hb hn (.inr (not_openBehind_length hbalanced b.line))
  constructor
  · intro hall g m hregion k hgk hkm hopens
    -- the inner conditional is closed inside, and the line that does so is lost
    obtain ⟨_, _, hboth⟩ := matching?_eq_some hregion.ends
    obtain ⟨e, hge, hem, hcloses⟩ := hboth.mp ⟨k, hgk, hkm, hopens⟩
    have hcontains := (hall e hcloses.le_length).mpr ⟨g, m, hregion, hge, hem⟩
    obtain ⟨⟨g', _, hge', _, hopen⟩, _⟩ := (hscan e hcloses.le_length).mp hcontains
    exact hopen e hge' (Nat.le_refl e) hcloses
  · intro hflat n hn
    rw [hscan n hn]
    constructor
    · -- the guard's own conditional cannot end above the line, since no conditional does
      intro ⟨⟨g, hbelow, hgn, hguard, hopen⟩, hown⟩
      obtain ⟨m, hm⟩ := exists_matching? hbalanced (hguard.imp opens_of_isGuard)
      obtain ⟨hgm, hcloses, _⟩ := matching?_eq_some hm
      have hregion := isRegion_of_flat hopening (closed_of_mem hb).opened hflat hguard hbelow
        (fun k hk hkg => hown k hk (by omega)) hm
      refine ⟨g, m, hregion, hgn, ?_⟩
      by_contra hnm
      exact hopen m hgm (by omega) hcloses
    · -- a conditional that ends inside the region would have begun there
      intro ⟨g, m, hregion, hgn, hnm⟩
      obtain ⟨_, _, hboth⟩ := matching?_eq_some hregion.ends
      refine ⟨⟨g, hregion.below, hgn, hregion.guard, fun k hgk hkn hcloses => ?_⟩, ?_⟩
      · obtain ⟨j, hgj, hjm, hopens⟩ := hboth.mpr ⟨k, hgk, by omega, hcloses⟩
        exact hflat g m hregion j hgj hjm hopens
      · intro k hk hkn
        by_cases hkg : k < g
        · exact hregion.own k hk hkg
        · by_cases heq : k = g
          · exact heq ▸ hregion.guard.not_at not_opensBlock_of_isGuard
          · exact hopening g m hregion.guard hregion.ends k (by omega) (by omega)

end VulkanGen.Block

namespace VulkanGen.Header

open Block Block.Conditional

/-- Which lines belong to a block of a header with balanced conditionals, none of whose
prototypes regions opens a block: those behind a guard of the block with no `#endif` and
no other block since.  These are the lines of its regions, each up to the `#endif` that
matches its guard, exactly if no conditional stands inside a region; then each prototype
that starts inside a region is the block's. -/
theorem region_ends_iff (h : Header) (hbalanced : Balanced h.lines)
    (hopening : NoneInside opensBlock h.lines) {b : Block} (hb : b ∈ h.parse.blocks) :
    (∀ n ≤ h.lines.length, (b.contains n = true ↔
      Inside h.lines b.line n ∧ ∀ k, b.line < k → k ≤ n → ¬At opensBlock h.lines k)) ∧
    ((∀ n ≤ h.lines.length,
        (b.contains n = true ↔ ∃ g m, IsRegion h.lines b g m ∧ g < n ∧ n < m)) ↔
      ∀ g m, IsRegion h.lines b g m → ∀ k, g < k → k < m → ¬At opens h.lines k) ∧
    ((∀ g m, IsRegion h.lines b g m → ∀ k, g < k → k < m → ¬At opens h.lines k) →
      ∀ p ∈ h.parse.prototypes, ∀ g m, IsRegion h.lines b g m → g < p.line → p.line < m →
        p ∈ h.parse.prototypesOf b) := by
  have hregions := regions_iff hbalanced hopening hb
  refine ⟨fun n hn => ?_, hregions, fun hflat p hp g m hregion hgp hpm => ?_⟩
  · exact contains_iff hb hn (.inr (not_openBehind_length hbalanced b.line))
  · have hlength : p.line ≤ h.lines.length := by
      obtain ⟨_, hcloses, _⟩ := matching?_eq_some hregion.ends
      exact Nat.le_trans (Nat.le_of_lt hpm) hcloses.le_length
    have hcontains := (hregions.mpr hflat p.line hlength).mpr ⟨g, m, hregion, hgp, hpm⟩
    exact List.mem_filter.mpr ⟨hp, hcontains⟩

/-- A header that is written line by line. -/
def written (lines : List String) : Header :=
  ⟨"vulkan_core.h", .ofList ((lines.map String.toList).flatMap (· ++ ['\n']))⟩

/-- The lines of a header that is written line by line. -/
private theorem lines_written (lines : List String) :
    (written lines).lines = Text.lines ((lines.map String.toList).flatMap (· ++ ['\n'])) := by
  rw [Header.lines, written, String.toList_ofList]

/-- Conditionals around a region and between two. -/
def outerConditionals : List String :=
  ["#define VK_VERSION_1_0 1", "#ifdef VK_A", "#ifndef VK_NO_PROTOTYPES",
    "VKAPI_ATTR void VKAPI_CALL vkA();", "#endif", "#if 1", "#endif", "#endif",
    "#ifndef VK_NO_PROTOTYPES", "VKAPI_ATTR void VKAPI_CALL vkB();", "#endif"]

/-- A conditional inside a region. -/
def innerConditional : List String :=
  ["#define VK_VERSION_1_0 1", "#ifndef VK_NO_PROTOTYPES", "#ifdef VK_ENABLE_BETA_EXTENSIONS",
    "VKAPI_ATTR void VKAPI_CALL vkA();", "#endif", "VKAPI_ATTR void VKAPI_CALL vkB();", "#endif"]

/-- The lines as they were written, without scanning them. -/
private theorem lines_outerConditionals :
    (written outerConditionals).lines = outerConditionals.map String.toList := by
  rw [lines_written]
  decide +kernel

/-- The same for the lines of the other header. -/
private theorem lines_innerConditional :
    (written innerConditional).lines = innerConditional.map String.toList := by
  rw [lines_written]
  decide +kernel

/-- Conditionals around a region, and one between two regions, do not matter. -/
theorem region_ends_of_outerConditionals :
    let h := written outerConditionals
    let b : Block := ⟨.core "1_0", 1, [⟨4, 5⟩, ⟨10, 11⟩]⟩
    Balanced h.lines ∧ NoneInside opensBlock h.lines ∧ b ∈ h.parse.blocks ∧
      ∀ n ≤ h.lines.length,
        (b.contains n = true ↔ ∃ g m, IsRegion h.lines b g m ∧ g < n ∧ n < m) := by
  intro h b
  -- the header is written from its lines, and they are what is evaluated
  have hlines : h.lines = outerConditionals.map String.toList := lines_outerConditionals
  have hbalanced : Balanced h.lines := by
    rw [hlines]
    decide +kernel
  have hopening : NoneInside opensBlock h.lines := by
    rw [hlines]
    decide +kernel
  have hflat : NoneInside opens h.lines := by
    rw [hlines]
    decide +kernel
  have hb : b ∈ h.parse.blocks := by
    rw [show h.parse.blocks = ofLines h.lines from rfl, hlines]
    decide +kernel
  -- no conditional is opened in the regions, so the condition of the theorem is met
  refine ⟨hbalanced, hopening, hb, ?_⟩
  refine (region_ends_iff h hbalanced hopening hb).2.1.mpr ?_
  intro g m hregion k hgk hkm hopens
  exact hflat g m hregion.guard hregion.ends k hgk hkm hopens

/-- A conditional inside a region ends it, and the declaration behind it is lost. -/
theorem not_region_ends :
    ¬∀ h : Header, Balanced h.lines → NoneInside opensBlock h.lines → ∀ b ∈ h.parse.blocks,
      ∀ n ≤ h.lines.length,
        (b.contains n = true ↔ ∃ g m, IsRegion h.lines b g m ∧ g < n ∧ n < m) := by
  intro hclaim
  let b : Block := ⟨.core "1_0", 1, [⟨3, 5⟩]⟩
  have hbounds := hclaim (written innerConditional)
  rw [show (written innerConditional).parse.blocks = ofLines (written innerConditional).lines
    from rfl, lines_innerConditional] at hbounds
  -- line 6 stands in the region of the guard on line 2, but the block ends at line 5
  have hregion : IsRegion (innerConditional.map String.toList) b 2 7 := by
    constructor
    · decide +kernel
    · decide
    · intro k hk hk2
      have hbelow : 1 < k := hk
      omega
    · decide +kernel
    · intro g' m' hguard' _ hlt
      -- lines 0 and 1 hold no guard, so this region lies in no other
      have hnone : ∀ g < 2, ¬At isGuard (innerConditional.map String.toList) g := by
        decide +kernel
      exact absurd hguard' (hnone g' hlt)
  have hcontains := (hbounds (by decide +kernel) (by decide +kernel) b (by decide +kernel) 6
    (by decide)).mpr ⟨2, 7, hregion, by decide, by decide⟩
  exact absurd hcontains (by decide)

end VulkanGen.Header
