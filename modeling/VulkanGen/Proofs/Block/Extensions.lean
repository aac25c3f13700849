import VulkanGen.Header
import VulkanGen.Proofs.Text.Lines

/-!
# Names of extension blocks

A block has the kind that the line says which opens it, and the name of an extension is
what stands between the first two quotes of that line's value.  So a name can be any
text without quotes and line breaks, and no other.

## Key results

- `Block.exists_line_of_mem`: every block was opened by a line
- `Block.Kind.extension_of_ofDefine?`: the name of an extension is a part of its line
- `Header.extension_of_mem_blocks`: what the names of a header's extensions do not hold
-/

namespace VulkanGen

/-- Dropping blanks adds no characters. -/
private theorem Text.mem_of_mem_dropBlank {c : Char} {cs : List Char} (h : c ∈ Text.dropBlank cs) :
    c ∈ cs :=
  (List.dropWhile_suffix _).subset h

/-- Neither does trimming. -/
private theorem Text.mem_of_mem_trim {c : Char} {cs : List Char} (h : c ∈ Text.trim cs) :
    c ∈ cs := by
  rw [trim, dropBlankEnd, List.mem_reverse] at h
  exact mem_of_mem_dropBlank (List.mem_reverse.mp (mem_of_mem_dropBlank h))

namespace Block

/-- The lines of a block with one prototypes region. -/
def text (opening declarations : String) : String :=
  opening ++ "\n" ++ guardLine ++ "\n" ++ declarations ++ "\n" ++ guardEnd ++ "\n"

/-- A block that was open is closed with its kind. -/
private theorem exists_of_mem_close {current : Option Growing} {stop : Nat} {block : Block}
    (h : block ∈ (current.map (·.close stop)).toList) :
    ∃ b, current = some b ∧ b.kind = block.kind := by
  rw [Option.mem_toList] at h
  obtain ⟨b, hb, rfl⟩ := Option.map_eq_some_iff.mp h
  exact ⟨b, hb, rfl⟩

/-- Reading on does not change what a block is. -/
private theorem Growing.kind_read (b : Growing) (lineNo : Nat) (line : List Char) :
    (b.read lineNo line).kind = b.kind := by
  rw [read]
  split
  · split <;> rfl
  · split <;> rfl

/-- Every block has the kind of the block that was open in front of some lines, or was
opened by one of them. -/
theorem exists_line_of_mem {lineNo : Nat} {current : Option Growing} {lines : List (List Char)}
    {block : Block} (h : block ∈ ofLinesFrom lineNo current lines) :
    (∃ b, current = some b ∧ b.kind = block.kind) ∨
      ∃ line ∈ lines, Kind.ofDefine? (Text.trim line) = some block.kind := by
  induction lines generalizing lineNo current with
  | nil => exact .inl (exists_of_mem_close h)
  | cons line lines ih =>
    -- a line opens a block or is read into the one that is open
    cases hkind : Kind.ofDefine? (Text.trim line) with
    | some kind =>
      rw [ofLinesFrom_cons_define lineNo current lines hkind, List.mem_append] at h
      rcases h with hclosed | hlater
      · exact .inl (exists_of_mem_close hclosed)
      · right
        rcases ih hlater with ⟨b, hb, hblock⟩ | ⟨other, hother, hblock⟩
        · -- the block that this line opened
          obtain rfl := Option.some.inj hb
          exact ⟨line, List.mem_cons_self, hkind.trans (congrArg some hblock)⟩
        · exact ⟨other, List.mem_cons_of_mem line hother, hblock⟩
    | none =>
      rw [ofLinesFrom_cons_other lineNo current lines hkind] at h
      rcases ih h with ⟨b, hb, hblock⟩ | ⟨other, hother, hblock⟩
      · left
        -- the block was open in front of this line already
        obtain ⟨b', hb', rfl⟩ := Option.map_eq_some_iff.mp hb
        exact ⟨b', hb', (b'.kind_read lineNo _).symm.trans hblock⟩
      · exact .inr ⟨other, List.mem_cons_of_mem line hother, hblock⟩

/-- The value of a macro is a part of its line. -/
private theorem mem_of_define? {line name value : List Char} (h : define? line = some (name, value))
    {c : Char} (hc : c ∈ value) : c ∈ line := by
  rw [define?] at h
  obtain ⟨rest, hrest, h⟩ := Option.bind_eq_some_iff.mp h
  obtain ⟨first, _, h⟩ := Option.bind_eq_some_iff.mp h
  obtain ⟨_, hvalue⟩ := Option.ite_none_right_eq_some.mp h
  obtain ⟨_, rfl⟩ := Prod.mk.inj (Option.some.inj hvalue)
  -- the value is what is left of the line behind the macro and its name
  have hline := (Text.stripPrefix?_eq_some_iff _ _ _).mp hrest
  have hmem := (List.dropWhile_suffix _).subset (Text.mem_of_mem_trim hc)
  rw [hline]
  exact List.mem_append_right _ (Text.mem_of_mem_dropBlank hmem)

/-- What stands between quotes has none, and is a part of the text. -/
private theorem quoted?_eq_some {value text : List Char} (h : quoted? value = some text) :
    '"' ∉ text ∧ text ⊆ value := by
  rw [quoted?.eq_def] at h
  split at h
  · next rest =>
    obtain ⟨_, hrun⟩ := Option.ite_none_right_eq_some.mp h
    cases hrun
    refine ⟨fun hquote => ?_, fun c hc => ?_⟩
    · exact absurd (List.all_eq_true.mp List.all_takeWhile _ hquote) (by decide)
    · exact List.mem_cons_of_mem _ ((List.takeWhile_prefix _).subset hc)
  · exact nomatch h

/-- The name of an extension is a part of the line that opens its block, and has no
quotes. -/
theorem Kind.extension_of_ofDefine? {line : List Char} {name : String}
    (h : ofDefine? line = some (.extension name)) :
    '"' ∉ name.toList ∧ name.toList ⊆ line := by
  rw [ofDefine?] at h
  obtain ⟨⟨word, value⟩, hdefine, h⟩ := Option.bind_eq_some_iff.mp h
  dsimp only at h
  rw [ofMacro?] at h
  split at h
  · -- the macro of a version opens no extension
    obtain ⟨_, hcore⟩ := Option.ite_none_right_eq_some.mp h
    cases hcore
  · obtain ⟨_, hquoted⟩ := Option.ite_none_right_eq_some.mp h
    -- the name is what stands in quotes behind the macro
    obtain ⟨text, htext, hname⟩ := Option.map_eq_some_iff.mp hquoted
    cases hname
    obtain ⟨hquote, hsub⟩ := quoted?_eq_some htext
    rw [String.toList_ofList]
    exact ⟨hquote, fun c hc => mem_of_define? hdefine (hsub hc)⟩

end Block

/-- The name of an extension of a header has no quotes and no line breaks. -/
theorem Header.extension_of_mem_blocks {h : Header} {block : Block} {name : String}
    (hblock : block ∈ h.parse.blocks) (hname : block.extension? = some name) :
    '"' ∉ name.toList ∧ '\n' ∉ name.toList := by
  have hkind : block.kind = .extension name := by
    rw [Block.extension?] at hname
    split at hname
    · exact nomatch hname
    · next kind hkind =>
      cases hname
      exact hkind
  rcases Block.exists_line_of_mem hblock with ⟨b, hb, _⟩ | ⟨line, hline, hopens⟩
  · -- no block is open in front of a header
    exact nomatch hb
  · rw [hkind] at hopens
    obtain ⟨hquote, hsub⟩ := Block.Kind.extension_of_ofDefine? hopens
    refine ⟨hquote, fun hbreak => ?_⟩
    -- the name is part of a line, and no line holds a break
    exact Text.not_break_of_mem_lines hline (Text.mem_of_mem_trim (hsub hbreak))

end VulkanGen
