import VulkanGen.Block.Conditional

/-!
# The lines of a block

The scanner of blocks keeps no count of the conditionals that are open inside a region:
a region that is open is closed by the next line that starts with `#endif`, whichever
conditional that line belongs to.  So the lines of a block are those behind one of its
guards with no `#endif` since.

Lines are numbered from 1, and `At p lines n` says that there is a line of number `n`
and that it has property `p`.

## Key results

- `Growing.Reads.read`: what one more line does to a block that is open
- `closed_of_mem_ofLinesFrom`: what a run of the scanner gives
- `contains_iff`: a line belongs to a block iff a guard of the block is open on it
-/

namespace VulkanGen.Block

/-! ## Lines by number -/

/-- Whether a line opens a block. -/
def opensBlock (line : List Char) : Bool :=
  (Kind.ofDefine? (Text.trim line)).isSome

/-- Whether there is a line of this number, counted from 1, and has a property. -/
def At (p : List Char → Bool) (lines : List (List Char)) : Nat → Prop
  | 0 => False
  | i + 1 => (lines[i]?).any p = true

/-- It can be decided by looking at the line. -/
instance (p : List Char → Bool) (lines : List (List Char)) (n : Nat) :
    Decidable (At p lines n) :=
  match n with
  | 0 => inferInstanceAs (Decidable False)
  | i + 1 => inferInstanceAs (Decidable ((lines[i]?).any p = true))

variable {lines : List (List Char)} {line : List Char} {p q : List Char → Bool} {i n s : Nat}

/-- A line of a known text is asked for its property. -/
theorem at_succ_iff (hline : lines[i]? = some line) : At p lines (i + 1) ↔ p line = true := by
  simp only [At, hline, Option.any_some]

/-- A line that has a property is there. -/
theorem exists_of_at (h : At p lines (i + 1)) : ∃ line, lines[i]? = some line ∧ p line = true :=
  Option.any_eq_true _ _ |>.mp h

/-- A line that has a property is one of the lines. -/
theorem At.le_length (h : At p lines n) : n ≤ lines.length := by
  cases n with
  | zero => exact h.elim
  | succ i =>
    obtain ⟨line, hline, _⟩ := exists_of_at h
    exact (List.getElem?_eq_some_iff.mp hline).1

/-- A line that has one property does not have another one that excludes it. -/
theorem At.not_at (h : At p lines n) (hpq : ∀ line, p line = true → q line = false) :
    ¬At q lines n := by
  cases n with
  | zero => exact id
  | succ i =>
    obtain ⟨line, hline, hp⟩ := exists_of_at h
    rw [at_succ_iff hline, hpq line hp]
    exact Bool.false_ne_true

/-- A weaker property is had where a stronger one is. -/
theorem At.imp (h : At p lines n) (hpq : ∀ line, p line = true → q line = true) :
    At q lines n := by
  cases n with
  | zero => exact h
  | succ i =>
    obtain ⟨line, hline, hp⟩ := exists_of_at h
    exact (at_succ_iff hline).mpr (hpq line hp)

namespace Conditional

/-- A guard is the guard line, blanks around it aside. -/
private theorem trim_eq_of_isGuard (h : isGuard line = true) : Text.trim line = guardLine.toList :=
  eq_of_beq h

/-- A guard opens a conditional like any other. -/
theorem opens_of_isGuard (line : List Char) (h : isGuard line = true) : opens line = true := by
  rw [opens, trim_eq_of_isGuard h]
  decide

/-- A guard closes no conditional. -/
private theorem not_closes_of_isGuard (line : List Char) (h : isGuard line = true) :
    closes line = false := by
  rw [closes, trim_eq_of_isGuard h]
  decide

/-- A guard opens no block. -/
theorem not_opensBlock_of_isGuard (line : List Char) (h : isGuard line = true) :
    opensBlock line = false := by
  rw [opensBlock, trim_eq_of_isGuard h]
  decide +kernel

/-- No line opens a conditional and closes one. -/
theorem not_opens_of_closes (line : List Char) (h : closes line = true) : opens line = false := by
  rw [closes, List.isPrefixOf_iff_prefix] at h
  obtain ⟨rest, hrest⟩ := h
  rw [opens, ← hrest]
  simp [guardEnd, List.isPrefixOf]

end Conditional

open Conditional

/-! ## Regions as the scanner sees them -/

/-- Whether a guard below line `s` is open behind line `n`: none of the lines since closes
a conditional. -/
def OpenBehind (lines : List (List Char)) (s n : Nat) : Prop :=
  ∃ g, s < g ∧ g ≤ n ∧ At isGuard lines g ∧ ∀ k, g < k → k ≤ n → ¬At closes lines k

/-- Whether a line is inside what a guard below line `s` opens. -/
def Inside (lines : List (List Char)) (s n : Nat) : Prop :=
  ∃ g, s < g ∧ g < n ∧ At isGuard lines g ∧ ∀ k, g < k → k ≤ n → ¬At closes lines k

/-- What one more line does to the guards that are open. -/
private theorem openBehind_succ_iff (hs : s ≤ i) :
    OpenBehind lines s (i + 1) ↔
      OpenBehind lines s i ∧ ¬At closes lines (i + 1) ∨ At isGuard lines (i + 1) := by
  constructor
  · intro ⟨g, hsg, hgi, hguard, hopen⟩
    -- the guard is the new line itself, or stands above it
    by_cases hg : g = i + 1
    · exact .inr (hg ▸ hguard)
    · left
      refine ⟨⟨g, hsg, by omega, hguard, fun k hgk hki => hopen k hgk (by omega)⟩, ?_⟩
      exact hopen (i + 1) (by omega) (Nat.le_refl _)
  · -- a guard above stays open unless the new line closes it, and the new line may guard
    intro h
    rcases h with ⟨⟨g, hsg, hgi, hguard, hopen⟩, hlast⟩ | hguard
    · refine ⟨g, hsg, by omega, hguard, fun k hgk hki => ?_⟩
      by_cases hk : k = i + 1
      · exact hk ▸ hlast
      · exact hopen k hgk (by omega)
    · exact ⟨i + 1, by omega, Nat.le_refl _, hguard, fun k hgk hki => by omega⟩

/-- A line is inside iff a guard is open behind the line above, and it does not close it. -/
private theorem inside_succ_iff :
    Inside lines s (i + 1) ↔ OpenBehind lines s i ∧ ¬At closes lines (i + 1) := by
  constructor
  · intro ⟨g, hsg, hgi, hguard, hopen⟩
    refine ⟨⟨g, hsg, by omega, hguard, fun k hgk hki => hopen k hgk (by omega)⟩, ?_⟩
    exact hopen (i + 1) (by omega) (Nat.le_refl _)
  · intro ⟨⟨g, hsg, hgi, hguard, hopen⟩, hlast⟩
    refine ⟨g, hsg, by omega, hguard, fun k hgk hki => ?_⟩
    by_cases hk : k = i + 1
    · exact hk ▸ hlast
    · exact hopen k hgk (by omega)

/-- Whether a block that is not closed yet has a line, as far as it has been read. -/
def Growing.Covers (c : Growing) (n : Nat) : Prop :=
  (∃ r ∈ c.regions, r.contains n = true) ∨ ∃ first ∈ c.guard, first ≤ n

/-- A block that is open behind line `i` has read the lines since it was opened: it covers
the lines that are inside one of its guards, and its own guard is open iff one is. -/
structure Growing.Reads (lines : List (List Char)) (i : Nat) (c : Growing) : Prop where
  opened : At opensBlock lines c.line
  line_le : c.line ≤ i
  alone : ∀ k, c.line < k → k ≤ i → ¬At opensBlock lines k
  stop_le : ∀ r ∈ c.regions, r.stop ≤ i
  guard_le : ∀ first ∈ c.guard, first ≤ i + 1
  open_iff : c.guard.isSome ↔ OpenBehind lines c.line i
  covers_iff : ∀ n ≤ i, c.Covers n ↔ Inside lines c.line n

namespace Growing

/-- A block that is opened has read its own line. -/
private theorem reads_start {kind : Kind} (hopens : At opensBlock lines (i + 1)) :
    (start kind (i + 1)).Reads lines (i + 1) where
  opened := hopens
  line_le := Nat.le_refl _
  alone k hk hki := absurd hki (by simpa [start] using hk)
  stop_le r hr := nomatch hr
  guard_le first hfirst := nomatch hfirst
  open_iff := by
    simp only [start, Option.isSome_none, Bool.false_eq_true, false_iff]
    -- no line stands between the opening and itself, so none is a guard
    intro ⟨g, hsg, hgi, _⟩
    omega
  covers_iff n hn := by
    have hinside : ¬Inside lines (i + 1) n := fun ⟨g, hsg, hgn, _⟩ => by omega
    simp [start, Covers, hinside]

/-- A line opens a region, or closes the one that is open, or does not matter. -/
theorem read_cases (c : Growing) (i : Nat) (line : List Char) :
    (c.guard = none ∧ isGuard line = true ∧
      c.read (i + 1) (Text.trim line) = { c with guard := some (i + 2) }) ∨
    (∃ first, c.guard = some first ∧ closes line = true ∧
      c.read (i + 1) (Text.trim line) =
        { c with regions := c.regions ++ [⟨first, i + 1⟩], guard := none }) ∨
    (c.read (i + 1) (Text.trim line) = c ∧ (c.guard = none → isGuard line = false) ∧
      (c.guard ≠ none → closes line = false)) := by
  -- a guard counts only where no region is open, and an `#endif` only where one is
  cases hguard : c.guard with
  | none =>
    by_cases hline : isGuard line = true
    · refine .inl ⟨rfl, hline, ?_⟩
      have hbeq : (Text.trim line == guardLine.toList) = true := hline
      simp only [read, hguard, hbeq, if_true]
    · rw [Bool.not_eq_true] at hline
      refine .inr (.inr ⟨?_, fun _ => hline, fun hne => absurd rfl hne⟩)
      have hbeq : (Text.trim line == guardLine.toList) = false := hline
      simp only [read, hguard, hbeq, Bool.false_eq_true, if_false]
  -- with a region open, the line ends it or is passed over
  | some first =>
    by_cases hline : closes line = true
    · refine .inr (.inl ⟨first, rfl, hline, ?_⟩)
      have hprefix : guardEnd.toList.isPrefixOf (Text.trim line) = true := hline
      simp only [read, hguard, hprefix, if_true]
    · rw [Bool.not_eq_true] at hline
      refine .inr (.inr ⟨?_, nofun, fun _ => hline⟩)
      have hprefix : guardEnd.toList.isPrefixOf (Text.trim line) = false := hline
      simp only [read, hguard, hprefix, Bool.false_eq_true, if_false]

/-- Reading on does not change where a block starts. -/
private theorem line_read (c : Growing) (i : Nat) (line : List Char) :
    (c.read (i + 1) (Text.trim line)).line = c.line := by
  rcases c.read_cases i line with ⟨_, _, hread⟩ | ⟨first, _, _, hread⟩ | ⟨hread, _⟩ <;> rw [hread]

/-- Which lines above are covered does not change. -/
private theorem covers_read_iff (c : Growing) (line : List Char) (hn : n ≤ i) :
    (c.read (i + 1) (Text.trim line)).Covers n ↔ c.Covers n := by
  rcases c.read_cases i line with ⟨hguard, _, hread⟩ | ⟨first, hguard, _, hread⟩ | ⟨hread, _⟩
  · have hbelow : ¬i + 2 ≤ n := by omega
    simp [hread, Covers, hguard, hbelow]
  · -- the region that was open covers the same lines now that it is closed
    have habove : n < i + 1 := by omega
    simp [hread, Covers, hguard, or_and_right, exists_or, Region.contains, habove]
  · rw [hread]

/-- A region does not contain the line that it ends at, nor those below. -/
private theorem not_contains_of_stop_le {regions : List Region} (h : ∀ r ∈ regions, r.stop ≤ n) :
    ¬∃ r ∈ regions, r.contains n = true := by
  intro ⟨r, hr, hcontains⟩
  have hstop := h r hr
  simp only [Region.contains, Bool.and_eq_true, decide_eq_true_eq] at hcontains
  omega

/-- The regions of the block behind one more line end there or above. -/
private theorem Reads.stop_read_le {c : Growing} (h : c.Reads lines i) (line : List Char) :
    ∀ r ∈ (c.read (i + 1) (Text.trim line)).regions, r.stop ≤ i + 1 := by
  intro r hr
  -- only a line that closes a region adds one, and that ends there
  rcases c.read_cases i line with ⟨_, _, hread⟩ | ⟨first, _, _, hread⟩ | ⟨hread, _⟩
  · rw [hread] at hr
    exact Nat.le_succ_of_le (h.stop_le r hr)
  · rw [hread] at hr
    rcases List.mem_append.mp hr with hr | hr
    · exact Nat.le_succ_of_le (h.stop_le r hr)
    · obtain rfl := List.mem_singleton.mp hr
      exact Nat.le_refl _
  · rw [hread] at hr
    exact Nat.le_succ_of_le (h.stop_le r hr)

/-- The line itself is covered iff a region was open and the line does not close it. -/
private theorem Reads.covers_read_last_iff {c : Growing} (h : c.Reads lines i) (line : List Char) :
    (c.read (i + 1) (Text.trim line)).Covers (i + 1) ↔ c.guard.isSome ∧ closes line = false := by
  -- only a region that is still open can contain the line
  rw [Covers, or_iff_right (not_contains_of_stop_le (h.stop_read_le line))]
  rcases c.read_cases i line with ⟨hguard, _, hread⟩ | ⟨first, hguard, hcloses, hread⟩ |
    ⟨hread, _, hcloses⟩
  · simp [hread, hguard]
  · simp [hread, hcloses]
  · -- the line leaves everything as it is, so the region that is open goes on
    rw [hread]
    constructor
    · intro ⟨first, hfirst, _⟩
      have hsome : c.guard = some first := hfirst
      exact ⟨by rw [hsome]; rfl, hcloses (by rw [hsome]; exact nofun)⟩
    · intro ⟨hsome, _⟩
      obtain ⟨first, hfirst⟩ := Option.isSome_iff_exists.mp hsome
      exact ⟨first, hfirst, h.guard_le first hfirst⟩

/-- A region is open behind the line iff the line guards one, or one was open and the line
does not close it. -/
private theorem isSome_guard_read_iff (c : Growing) (i : Nat) (line : List Char) :
    (c.read (i + 1) (Text.trim line)).guard.isSome ↔
      c.guard.isSome ∧ closes line = false ∨ isGuard line = true := by
  rcases c.read_cases i line with ⟨hguard, hline, hread⟩ | ⟨first, hguard, hcloses, hread⟩ |
    ⟨hread, hline, hcloses⟩
  · -- the line opens a region
    simp [hread, hline]
  · -- a line that closes a conditional guards nothing
    have hline : isGuard line = false := by
      rw [Bool.eq_false_iff]
      intro hline
      exact Bool.false_ne_true ((not_closes_of_isGuard line hline).symm.trans hcloses)
    simp [hread, hcloses, hline]
  · rw [hread]
    cases hguard : c.guard with
    | none => simp [hline hguard]
    | some first => simp [hcloses (by rw [hguard]; exact nofun)]

/-- One more line that opens no block is read. -/
theorem Reads.read {c : Growing} (h : c.Reads lines i) (hline : lines[i]? = some line)
    (hopens : opensBlock line = false) :
    (c.read (i + 1) (Text.trim line)).Reads lines (i + 1) := by
  have hsame := c.line_read i line
  have hcloses : ¬At closes lines (i + 1) ↔ closes line = false := by
    rw [at_succ_iff hline, Bool.not_eq_true]
  constructor
  · rw [hsame]
    exact h.opened
  · rw [hsame]
    exact Nat.le_succ_of_le h.line_le
  · -- the line is the only one that is new, and opens no block
    intro k hk hki
    rw [hsame] at hk
    by_cases hlast : k = i + 1
    · rw [hlast, at_succ_iff hline, hopens]
      exact Bool.false_ne_true
    · exact h.alone k hk (by omega)
  · exact h.stop_read_le line
  · -- a region that the line guards begins on the next one
    intro first hfirst
    rcases c.read_cases i line with ⟨_, _, hread⟩ | ⟨first, _, _, hread⟩ | ⟨hread, _⟩
    · rw [hread] at hfirst
      cases hfirst
      exact Nat.le_refl _
    · rw [hread] at hfirst
      exact nomatch hfirst
    · rw [hread] at hfirst
      exact Nat.le_succ_of_le (h.guard_le first hfirst)
  · rw [hsame, isSome_guard_read_iff, openBehind_succ_iff h.line_le, ← h.open_iff, hcloses,
      at_succ_iff hline]
  · -- the lines above are covered as before, so only the new one is asked for
    intro n hn
    rw [hsame]
    by_cases hlast : n = i + 1
    · rw [hlast, h.covers_read_last_iff, inside_succ_iff, ← h.open_iff, hcloses]
    · have hni : n ≤ i := by omega
      rw [c.covers_read_iff line hni, h.covers_iff n hni]

end Growing

/-! ## Blocks as the scanner sees them -/

/-- A block that is closed has the lines that are inside one of its guards, as long as no
other block is opened in front of them. -/
structure Closed (lines : List (List Char)) (b : Block) : Prop where
  opened : At opensBlock lines b.line
  contains_iff : ∀ n ≤ lines.length, (n < lastLine ∨ ¬OpenBehind lines b.line lines.length) →
    (b.contains n = true ↔
      Inside lines b.line n ∧ ∀ k, b.line < k → k ≤ n → ¬At opensBlock lines k)

/-- What a block covers when it is closed at a line. -/
private theorem contains_close (c : Growing) {stop : Nat} (hn : n < stop ∨ c.guard = none) :
    (c.close stop).contains n = true ↔ c.Covers n := by
  cases hguard : c.guard with
  | none => simp [Growing.close, contains, Growing.Covers, hguard]
  | some first =>
    have hstop : n < stop := hn.resolve_right (by rw [hguard]; exact nofun)
    simp [Growing.close, contains, Growing.Covers, hguard, Region.contains, hstop]

namespace Growing

variable {c : Growing}

/-- A block that is open at the end is closed there. -/
private theorem Reads.closed_last (h : c.Reads lines lines.length) : Closed lines
    (c.close lastLine) where
  opened := h.opened
  contains_iff n hn hlast := by
    -- a region that is still open is closed at the last line number there can be
    have hguard : n < lastLine ∨ c.guard = none := by
      refine hlast.imp_right fun hopen => ?_
      rw [← Option.not_isSome_iff_eq_none, h.open_iff]
      exact hopen
    have halone : ∀ k, c.line < k → k ≤ n → ¬At opensBlock lines k := fun k hk hkn =>
      h.alone k hk (Nat.le_trans hkn hn)
    rw [contains_close c hguard, h.covers_iff n hn]
    exact (and_iff_left halone).symm

/-- A block is closed where the next one is opened. -/
private theorem Reads.closed_next (h : c.Reads lines i) (hopens : At opensBlock lines (i + 1)) :
    Closed lines (c.close (i + 1)) where
  opened := h.opened
  contains_iff n _ _ := by
    by_cases hn : n ≤ i
    · -- above the next block, the lines are those that the block has read
      have halone : ∀ k, c.line < k → k ≤ n → ¬At opensBlock lines k := fun k hk hkn =>
        h.alone k hk (Nat.le_trans hkn hn)
      rw [contains_close c (.inl (Nat.lt_succ_of_le hn)), h.covers_iff n hn]
      exact (and_iff_left halone).symm
    · -- from the next block on no line belongs to this one
      have hnot : (c.close (i + 1)).contains n = false := by
        rw [Bool.eq_false_iff]
        intro hcontains
        simp only [contains, close, List.any_append, Bool.or_eq_true, List.any_eq_true,
          Region.contains, Bool.and_eq_true, decide_eq_true_eq] at hcontains
        rcases hcontains with ⟨r, hr, _, hstop⟩ | ⟨r, hr, _, hstop⟩
        · have := h.stop_le r hr
          omega
        · obtain ⟨first, _, rfl⟩ := Option.map_eq_some_iff.mp (Option.mem_toList.mp hr)
          dsimp only at hstop
          omega
      rw [hnot]
      simp only [Bool.false_eq_true, false_iff, not_and]
      intro _ halone
      exact halone (i + 1) (Nat.lt_succ_of_le h.line_le) (by omega) hopens

end Growing

/-- Every block that the scanner finds is closed. -/
theorem closed_of_mem_ofLinesFrom {current : Option Growing} {rest : List (List Char)}
    (hi : i ≤ lines.length) (hrest : lines.drop i = rest)
    (hcurrent : ∀ c ∈ current, c.Reads lines i) {b : Block}
    (h : b ∈ ofLinesFrom (i + 1) current rest) : Closed lines b := by
  -- along the lines that are left; the block that is open has read those above
  induction rest generalizing i current with
  | nil =>
    -- only the block that is open at the end is still to come
    obtain ⟨c, hc, rfl⟩ := Option.map_eq_some_iff.mp (Option.mem_toList.mp h)
    have hlength : i = lines.length := Nat.le_antisymm hi (List.drop_eq_nil_iff.mp hrest)
    exact (hlength ▸ hcurrent c hc).closed_last
  | cons line rest ih =>
    -- the first line that is left has the number that the scanner counts
    have hline : lines[i]? = some line := by
      rw [← List.head?_drop, hrest]
      rfl
    have hrest' : lines.drop (i + 1) = rest := by
      rw [← List.drop_drop, hrest]
      rfl
    have hi' : i + 1 ≤ lines.length := (List.getElem?_eq_some_iff.mp hline).1
    cases hkind : Kind.ofDefine? (Text.trim line) with
    | some kind =>
      have hopens : At opensBlock lines (i + 1) := by
        rw [at_succ_iff hline, opensBlock, hkind]
        rfl
      rw [ofLinesFrom_cons_define _ _ _ hkind, List.mem_append] at h
      rcases h with hclosed | hlater
      · -- the block that was open until here
        obtain ⟨c, hc, rfl⟩ := Option.map_eq_some_iff.mp (Option.mem_toList.mp hclosed)
        exact (hcurrent c hc).closed_next hopens
      · -- a later block, behind the one that this line opens
        refine ih hi' hrest' ?_ hlater
        intro c hc
        cases hc
        exact Growing.reads_start hopens
    | none =>
      have hopens : opensBlock line = false := by rw [opensBlock, hkind]; rfl
      rw [ofLinesFrom_cons_other _ _ _ hkind] at h
      refine ih hi' hrest' ?_ h
      intro c' hc'
      obtain ⟨c, hc, rfl⟩ := Option.map_eq_some_iff.mp hc'
      exact (hcurrent c hc).read hline hopens

/-- Every block of a text is closed. -/
theorem closed_of_mem {b : Block} (hb : b ∈ ofLines lines) : Closed lines b :=
  closed_of_mem_ofLinesFrom (Nat.zero_le _) List.drop_zero
    (fun c (hc : c ∈ (none : Option Growing)) => nomatch hc) hb

/-- A line belongs to a block iff it is behind a guard of the block, with no line since
that closes a conditional or opens another block. -/
theorem contains_iff {b : Block} (hb : b ∈ ofLines lines) (hn : n ≤ lines.length)
    (hlast : n < lastLine ∨ ¬OpenBehind lines b.line lines.length) :
    b.contains n = true ↔
      Inside lines b.line n ∧ ∀ k, b.line < k → k ≤ n → ¬At opensBlock lines k :=
  (closed_of_mem hb).contains_iff n hn hlast

end VulkanGen.Block
