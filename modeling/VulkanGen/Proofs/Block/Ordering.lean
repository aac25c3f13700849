import VulkanGen.Proofs.Block.Regions
import VulkanGen.Proofs.Header.Accounting
import VulkanGen.Proofs.List.Basic

/-!
# Blocks do not overlap

A region that is open where a block starts is closed there, so no region reaches below the
line that opens the next block, and none begins above the line of its own.  Blocks, and the
regions of each, therefore follow one another from top to bottom, and a line lies in one
region at most.

Prototypes are in the order of their lines too.  Taken block by block they keep that order,
and each is taken once.

## Key results

- `Growing.Stacked.read`: one more line keeps the regions of an open block in order
- `pairwise_ofLinesFrom`: what a run of the scanner gives is in order
- `blocks_share_no_line`: how the blocks of a text, and their prototypes, stand to each other
-/

namespace VulkanGen

namespace Block

/-- The numbers of the lines that open a block. -/
def openingLines (lines : List (List Char)) : List Nat :=
  ((lines.zipIdx 1).filter fun entry => opensBlock entry.1).map (·.2)

/-- A block that stands above another one, with all its regions. -/
structure Above (b c : Block) : Prop where
  line_lt : b.line < c.line
  stop_le : ∀ r ∈ b.prototypes, r.stop ≤ c.line

/-- The regions of a block among `n` lines: they stand below its own line, from top to
bottom and apart from each other, and each of them ends, the last one perhaps at the end of
the input only. -/
structure Placed (n : Nat) (b : Block) : Prop where
  below : ∀ r ∈ b.prototypes, b.line < r.start
  ascending : b.prototypes.Pairwise fun r s => r.stop < s.start
  ends : ∀ r ∈ b.prototypes, r.start ≤ r.stop ∧ r.stop ≤ n ∨
    b.prototypes.getLast? = some r ∧ r.stop = lastLine

variable {line : List Char} {i n stop : Nat}

/-- The regions of a block that is open behind line `i`, and the one that it may have open,
stand below its own line and follow one another. -/
structure Growing.Stacked (i : Nat) (c : Growing) : Prop where
  line_le : c.line ≤ i
  below : ∀ r ∈ c.regions, c.line < r.start
  ascending : c.regions.Pairwise fun r s => r.stop < s.start
  ends : ∀ r ∈ c.regions, r.start ≤ r.stop ∧ r.stop ≤ i
  guard : ∀ first ∈ c.guard, c.line < first ∧ first ≤ i + 1 ∧ ∀ r ∈ c.regions, r.stop < first

namespace Growing

/-- A block that is opened has no regions yet. -/
private theorem stacked_start (kind : Kind) (i : Nat) : (start kind i).Stacked i where
  line_le := Nat.le_refl i
  below _ hr := nomatch hr
  ascending := .nil
  ends _ hr := nomatch hr
  guard _ hfirst := nomatch hfirst

variable {c : Growing}

/-- One more line that opens no block is read. -/
theorem Stacked.read (h : c.Stacked i) (line : List Char) :
    (c.read (i + 1) (Text.trim line)).Stacked (i + 1) := by
  have hline := h.line_le
  have hends : ∀ r ∈ c.regions, r.start ≤ r.stop ∧ r.stop ≤ i + 1 := fun r hr =>
    ⟨(h.ends r hr).1, Nat.le_succ_of_le (h.ends r hr).2⟩
  rcases c.read_cases i line with ⟨_, _, hread⟩ | ⟨first, hguard, _, hread⟩ | ⟨hread, _⟩
  · -- the region that the line guards begins below it, and all others have ended above
    rw [hread]
    refine ⟨Nat.le_succ_of_le hline, h.below, h.ascending, hends, ?_⟩
    intro first hfirst
    obtain rfl := Option.some.inj hfirst
    refine ⟨show c.line < i + 2 by omega, Nat.le_refl _, fun r hr => ?_⟩
    have hstop := (h.ends r hr).2
    omega
  · -- the region that was open is now the last one of those that have ended
    obtain ⟨hfirst, hle, habove⟩ := h.guard first hguard
    rw [hread]
    refine ⟨Nat.le_succ_of_le hline, ?_, ?_, ?_, fun _ hnone => nomatch hnone⟩
    · -- it begins below the line of the block, and behind all others
      exact List.forall_mem_append.mpr ⟨h.below, List.forall_mem_singleton.mpr hfirst⟩
    · refine List.pairwise_append.mpr ⟨h.ascending, List.pairwise_singleton _ _, ?_⟩
      intro r hr s hs
      rw [List.mem_singleton.mp hs]
      exact habove r hr
    · exact List.forall_mem_append.mpr
        ⟨hends, List.forall_mem_singleton.mpr ⟨hle, Nat.le_refl _⟩⟩
  · rw [hread]
    refine ⟨Nat.le_succ_of_le hline, h.below, h.ascending, hends, fun first hfirst => ?_⟩
    obtain ⟨hfirst, hle, habove⟩ := h.guard first hfirst
    exact ⟨hfirst, Nat.le_succ_of_le hle, habove⟩

/-- The regions of a closed block: those that have ended, and the one that was open. -/
private theorem mem_prototypes_close {r : Region} :
    r ∈ (c.close stop).prototypes ↔ r ∈ c.regions ∨ ∃ first ∈ c.guard, r = ⟨first, stop⟩ := by
  simp only [close, List.mem_append, Option.mem_toList, Option.map_eq_some_iff, Option.mem_def,
    @eq_comm _ r]

/-- Wherever a block is closed, its regions stand below its line and follow one another. -/
theorem Stacked.close (h : c.Stacked i) (stop : Nat)
    (hends : ∀ first ∈ c.guard, first ≤ stop ∧ stop ≤ n ∨ stop = lastLine) (hn : i ≤ n) :
    (c.close stop).Placed n := by
  constructor
  · -- a region that was open ends where the block is closed
    intro r hr
    rcases mem_prototypes_close.mp hr with hr | ⟨first, hfirst, rfl⟩
    · exact h.below r hr
    · exact (h.guard first hfirst).1
  · -- the regions that have ended are in order, and the open one begins behind them
    refine List.pairwise_append.mpr ⟨h.ascending, ?_, ?_⟩
    · cases c.guard with
      | none => exact .nil
      | some first => exact List.pairwise_singleton _ _
    · intro r hr s hs
      obtain ⟨first, hfirst, rfl⟩ := Option.map_eq_some_iff.mp (Option.mem_toList.mp hs)
      exact (h.guard first hfirst).2.2 r hr
  · intro r hr
    rcases mem_prototypes_close.mp hr with hr | ⟨first, hfirst, rfl⟩
    · exact .inl ⟨(h.ends r hr).1, Nat.le_trans (h.ends r hr).2 hn⟩
    · refine (hends first hfirst).imp_right fun hlast => ⟨?_, hlast⟩
      have hguard : c.guard = some first := hfirst
      simp [Growing.close, hguard]

end Growing

/-! ## Runs of the scanner -/

/-- Each line that opens a block gives one, behind the block that is open already. -/
private theorem map_line_ofLinesFrom (lineNo : Nat) (current : Option Growing)
    (rest : List (List Char)) :
    (ofLinesFrom lineNo current rest).map (·.line) =
      (current.map (·.line)).toList ++
        ((rest.zipIdx lineNo).filter fun entry => opensBlock entry.1).map (·.2) := by
  -- closing a block keeps its line
  have hclose : ∀ (current : Option Growing) (stop : Nat),
      ((current.map (·.close stop)).toList).map (·.line) = (current.map (·.line)).toList := by
    intro current stop
    cases current <;> rfl
  induction rest generalizing lineNo current with
  | nil =>
    rw [ofLinesFrom_nil, hclose]
    simp
  | cons line rest ih =>
    rw [List.zipIdx_cons]
    cases hkind : Kind.ofDefine? (Text.trim line) with
    -- the line opens a block, and the one that was open is closed with the line it has
    | some kind =>
      have hopens : opensBlock line = true := by rw [opensBlock, hkind]; rfl
      rw [ofLinesFrom_cons_define _ _ _ hkind, List.map_append, hclose, ih,
        List.filter_cons_of_pos (by simp [hopens])]
      rfl
    | none =>
      have hopens : opensBlock line = false := by rw [opensBlock, hkind]; rfl
      -- reading on does not change the line of the block
      have hsame : (current.map (·.read lineNo (Text.trim line))).map (·.line) =
          current.map (·.line) := by
        cases current with
        | none => rfl
        | some c =>
          simp only [Option.map_some, Growing.read]
          split <;> split <;> rfl
      rw [ofLinesFrom_cons_other _ _ _ hkind, ih, hsame,
        List.filter_cons_of_neg (by simp [hopens])]

/-- No block that is found starts above the one that is open. -/
private theorem le_line_of_mem_ofLinesFrom {rest : List (List Char)} {c : Growing} (hc : c.line ≤ i)
    {b : Block} (h : b ∈ ofLinesFrom i (some c) rest) : c.line ≤ b.line := by
  have hline : b.line ∈ (ofLinesFrom i (some c) rest).map (·.line) := List.mem_map_of_mem h
  rw [map_line_ofLinesFrom] at hline
  rcases List.mem_append.mp hline with hfirst | hlater
  · rw [List.mem_singleton.mp hfirst]
  · obtain ⟨entry, hentry, hnumber⟩ := List.mem_map.mp hlater
    have hle := List.le_snd_of_mem_zipIdx (List.mem_filter.mp hentry).1
    omega

/-- A block that is closed where the next one opens stands above all that are found then. -/
private theorem above_of_mem_ofLinesFrom {rest : List (List Char)} {c : Growing} (hc : c.Stacked i)
    {kind : Kind} {b : Block}
    (h : b ∈ ofLinesFrom (i + 2) (some (.start kind (i + 1))) rest) :
    Above (c.close (i + 1)) b := by
  have hle : i + 1 ≤ b.line := le_line_of_mem_ofLinesFrom (Nat.le_succ (i + 1)) h
  have hline := hc.line_le
  refine ⟨show c.line < b.line by omega, fun r hr => ?_⟩
  rcases Growing.mem_prototypes_close.mp hr with hr | ⟨first, _, rfl⟩
  · have hstop := (hc.ends r hr).2
    omega
  · exact hle

/-- The blocks that are found stand one above the other. -/
theorem pairwise_ofLinesFrom {current : Option Growing} {rest : List (List Char)}
    (hcurrent : ∀ c ∈ current, c.Stacked i) :
    (ofLinesFrom (i + 1) current rest).Pairwise Above ∧
      ∀ b ∈ ofLinesFrom (i + 1) current rest, b.Placed (i + rest.length) := by
  -- along the lines; the block that is open is closed at the next one or at the end
  induction rest generalizing i current with
  | nil =>
    cases current with
    | none => exact ⟨.nil, fun _ hb => nomatch hb⟩
    | some c =>
      refine ⟨List.pairwise_singleton _ _, List.forall_mem_singleton.mpr ?_⟩
      exact (hcurrent c rfl).close lastLine (fun _ _ => .inr rfl) (Nat.le_refl i)
  | cons line rest ih =>
    have hlength : i + 1 + rest.length = i + (line :: rest).length := by
      rw [List.length_cons]
      omega
    cases hkind : Kind.ofDefine? (Text.trim line) with
    | some kind =>
      -- a line with a definition opens a block
      have hstart : ∀ c ∈ some (Growing.start kind (i + 1)), c.Stacked (i + 1) := fun c hc =>
        Option.some.inj hc ▸ Growing.stacked_start kind (i + 1)
      obtain ⟨hpairwise, hplaced⟩ := ih hstart
      rw [hlength] at hplaced
      rw [ofLinesFrom_cons_define _ _ _ hkind]
      cases current with
      | none => exact ⟨hpairwise, hplaced⟩
      | some c =>
        have hc := hcurrent c rfl
        have hlast : i + 1 ≤ i + (line :: rest).length := hlength ▸ Nat.le_add_right (i + 1) _
        -- the block that was open is closed here, above all that are found later
        have hclosed : (c.close (i + 1)).Placed (i + (line :: rest).length) :=
          hc.close (i + 1) (fun first hfirst => .inl ⟨(hc.guard first hfirst).2.1, hlast⟩)
            (Nat.le_add_right _ _)
        exact ⟨List.pairwise_cons.mpr ⟨fun b hb => above_of_mem_ofLinesFrom hc hb, hpairwise⟩,
          List.forall_mem_cons.mpr ⟨hclosed, hplaced⟩⟩
    -- any other line is read by the block that is open, if there is one
    | none =>
      rw [ofLinesFrom_cons_other _ _ _ hkind, ← hlength]
      apply ih
      intro c' hc'
      obtain ⟨c, hc, rfl⟩ := Option.map_eq_some_iff.mp hc'
      exact (hcurrent c hc).read line

/-- The blocks of a text stand one above the other. -/
private theorem pairwise_ofLines (lines : List (List Char)) :
    (ofLines lines).Pairwise Above ∧ ∀ b ∈ ofLines lines, b.Placed lines.length := by
  have hrun : (ofLinesFrom (0 + 1) none lines).Pairwise Above ∧
      ∀ b ∈ ofLinesFrom (0 + 1) none lines, b.Placed (0 + lines.length) :=
    pairwise_ofLinesFrom fun c hc => nomatch hc
  simpa only [ofLines, Nat.zero_add] using hrun

/-! ## Lines of different blocks -/

/-- The lines of a block stand above those of a block below it. -/
private theorem lt_of_contains {b c : Block} {m : Nat} (habove : Above b c)
    (hplaced : c.Placed stop) (hb : b.contains m = true) (hc : c.contains n = true) : m < n := by
  obtain ⟨r, hr, hrm⟩ := List.any_eq_true.mp hb
  obtain ⟨s, hs, hsn⟩ := List.any_eq_true.mp hc
  simp only [Region.contains, Bool.and_eq_true, decide_eq_true_eq] at hrm hsn
  have hstop := habove.stop_le r hr
  have hstart := hplaced.below s hs
  omega

/-- Lines of two blocks of a text are in the order of the blocks. -/
private theorem pairwise_contains (lines : List (List Char)) :
    (ofLines lines).Pairwise fun b c =>
      ∀ m n, b.contains m = true → c.contains n = true → m < n := by
  obtain ⟨hpairwise, hplaced⟩ := pairwise_ofLines lines
  refine hpairwise.imp_of_mem fun _ hc habove m n => ?_
  exact lt_of_contains habove (hplaced _ hc)

/-- A line belongs to one block at most. -/
private theorem countP_contains_le_one (lines : List (List Char)) (n : Nat) :
    (ofLines lines).countP (·.contains n) ≤ 1 := by
  refine List.countP_le_one ((pairwise_contains lines).imp fun horder hb => ?_)
  rw [Bool.eq_false_iff]
  intro hc
  exact Nat.lt_irrefl n (horder n n hb hc)

end Block

/-- The prototypes of the blocks, block by block, are those that stand in some block, in
the order of the header. -/
private theorem ParsedHeader.flatMap_prototypesOf (h : Header) :
    h.parse.blocks.flatMap h.parse.prototypesOf =
      h.parse.prototypes.filter fun p => h.parse.blocks.any (·.contains p.line) := by
  have haccounts := Extraction.accounts_ofLines h.lines
  exact List.flatMap_filter_eq_filter (Span.ascending_prototypes haccounts.line_ascending)
    (Block.pairwise_contains h.lines)

namespace Block

/-- Blocks share no line.  Each line that opens a block gives one, and these stand one
above the other, with all their regions, which follow one another below the line of their
block; so a line belongs to one block at most.  The prototypes of the blocks of a header,
block by block, are those that stand in some block, in the order of the header. -/
theorem blocks_share_no_line :
    (∀ lines : List (List Char),
      (ofLines lines).map (·.line) = openingLines lines ∧
      (ofLines lines).Pairwise Above ∧
      (∀ b ∈ ofLines lines, b.Placed lines.length) ∧
      ∀ n, (ofLines lines).countP (·.contains n) ≤ 1) ∧
    ∀ h : Header,
      h.parse.blocks.flatMap h.parse.prototypesOf =
        h.parse.prototypes.filter (fun p => h.parse.blocks.any (·.contains p.line)) ∧
      (h.parse.blocks.flatMap h.parse.prototypesOf).Sublist h.parse.prototypes := by
  refine ⟨fun lines => ?_, fun h => ?_⟩
  · obtain ⟨hpairwise, hplaced⟩ := pairwise_ofLines lines
    exact ⟨map_line_ofLinesFrom 1 none lines, hpairwise, hplaced, countP_contains_le_one lines⟩
  · have hfilter := ParsedHeader.flatMap_prototypesOf h
    exact ⟨hfilter, hfilter ▸ List.filter_sublist⟩

/-- The region of the first block is open where the second one starts, and that one has a
region that is still open at the end. -/
def openRegions : List (List Char) :=
  ["#define VK_VERSION_1_0 1", "#ifndef VK_NO_PROTOTYPES", "VKAPI_ATTR void VKAPI_CALL vkA();",
    "#define VK_X_EXTENSION_NAME \"VK_X\"", "VKAPI_ATTR void VKAPI_CALL vkB();",
    "#ifndef VK_NO_PROTOTYPES", "VKAPI_ATTR void VKAPI_CALL vkC();", "#endif",
    "#ifndef VK_NO_PROTOTYPES", "VKAPI_ATTR void VKAPI_CALL vkD();"].map String.toList

/-- Regions that nothing closes do not reach into other blocks. -/
theorem blocks_share_no_line_of_openRegions :
    let b : Block := ⟨.core "1_0", 1, [⟨3, 4⟩]⟩
    let c : Block := ⟨.extension "VK_X", 4, [⟨7, 8⟩, ⟨10, lastLine⟩]⟩
    ofLines openRegions = [b, c] ∧ Above b c ∧ c.Placed 10 ∧ [b, c].countP (·.contains 10) ≤ 1 := by
  intro b c
  obtain ⟨_, hpairwise, hplaced, hone⟩ := blocks_share_no_line.1 openRegions
  have hblocks : ofLines openRegions = [b, c] := by decide +kernel
  rw [hblocks] at hpairwise hplaced hone
  exact ⟨hblocks, (List.pairwise_cons.mp hpairwise).1 c List.mem_cons_self,
    hplaced c (List.mem_cons_of_mem b List.mem_cons_self), hone 10⟩

end Block

end VulkanGen
