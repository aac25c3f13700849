import Mathlib.Data.List.Basic
import VulkanGen.Artifact.TableReader
import VulkanGen.Proofs.Declaration.Plain

/-!
# Lists that are read back

The generated table lists groups, names and members, one on a line.  A list is read
back line by line up to the line that closes it, so it comes back as it was written if
every item comes back from its own line and has no line break in it; the closing line
is the only one that is not indented.  What items need for that is little: a name must
not hold the character that ends it, and no line break.

## Key results

- `listLines_join`: a list of items that are read back is read back
- `listItem_groupLine`, `listItem_nameLine`, `listItem_memberLine`: the three kinds of items
- `readTableSource_tableSource`, `readMembers_tableHeader`: the two files
-/

namespace VulkanGen.Artifact

/-! ## Lists -/

/-- An item is written on an indented line of its own, and is read back from it. -/
structure ListItem {α : Type} (print : α → String) (read? : List Char → Option α) (x : α)
    (line : List Char) : Prop where
  print_eq : (print x).toList = line ++ ['\n']
  no_break : '\n' ∉ line
  indented : line.head? = some ' '
  read_eq : read? line = some x

/-- A text is read up to a character behind it that it does not hold itself. -/
private theorem takeWhile_ne {text : List Char} {stop : Char} (rest : List Char) (h : stop ∉ text) :
    (text ++ stop :: rest).takeWhile (· ≠ stop) = text ∧
      (text ++ stop :: rest).dropWhile (· ≠ stop) = stop :: rest := by
  have htext : ∀ c ∈ text, decide (c ≠ stop) = true := by
    intro c hc
    exact decide_eq_true fun heq => h (heq ▸ hc)
  have hstop : ∀ c ∈ (stop :: rest).head?, decide (c ≠ stop) = false := by
    intro c hc
    cases hc
    exact decide_eq_false (not_not_intro rfl)
  exact ⟨Text.takeWhile_append_of_stop htext hstop, Text.dropWhile_append_of_stop htext hstop⟩

/-- The first line of a text that starts with a line. -/
private theorem splitLine_append {line : List Char} (rest : List Char) (h : '\n' ∉ line) :
    splitLine (line ++ '\n' :: rest) = (line, rest) := by
  rw [splitLine, (takeWhile_ne rest h).1, (takeWhile_ne rest h).2]
  rfl

/-- A list ends at its closing line. -/
private theorem listLines_closing (rest : List Char) :
    listLines (closing.toList ++ rest) = some ([], rest) := by
  have hclosing : closing.toList = ['}', ';'] ++ ['\n'] := rfl
  have hsplit : splitLine (closing.toList ++ rest) = (['}', ';'], rest) := by
    rw [hclosing, List.append_assoc]
    exact splitLine_append rest (by decide)
  rw [listLines, dif_neg (by rw [hclosing]; simp), hsplit, ← hclosing, if_pos (beq_self_eq_true _)]

/-- An indented line does not end the list. -/
private theorem listLines_item {line : List Char} (rest : List Char) (hbreak : '\n' ∉ line)
    (hindented : line.head? = some ' ') :
    listLines (line ++ '\n' :: rest) =
      (listLines rest).map fun (lines, rest) => (line :: lines, rest) := by
  have hne : line ++ '\n' :: rest ≠ [] := by simp
  have hclosing : line ++ ['\n'] ≠ closing.toList := by
    intro heq
    have hhead := congrArg List.head? heq
    rw [List.head?_append, hindented] at hhead
    exact absurd hhead (by decide)
  rw [listLines, dif_neg hne, splitLine_append rest hbreak, if_neg (by rwa [beq_iff_eq])]

/-- A list of items that are read back is read back, up to its closing line. -/
theorem listLines_join {α : Type} {print : α → String} {read? : List Char → Option α}
    {xs : List α} (h : ∀ x ∈ xs, ∃ line, ListItem print read? x line) (rest : List Char) :
    ∃ lines, listLines ((String.join (xs.map print)).toList ++ (closing.toList ++ rest)) =
      some (lines, rest) ∧ lines.mapM read? = some xs := by
  induction xs with
  | nil => exact ⟨[], listLines_closing rest, rfl⟩
  | cons x xs ih =>
    rw [List.forall_mem_cons] at h
    obtain ⟨⟨line, hline⟩, hlater⟩ := h
    obtain ⟨lines, hlines, hread⟩ := ih hlater
    -- the first line is indented, so it does not close the list
    refine ⟨line :: lines, ?_, ?_⟩
    · rw [List.map_cons, String.join_cons, String.toList_append, hline.print_eq,
        List.append_assoc, List.append_assoc, List.singleton_append,
        listLines_item _ hline.no_break hline.indented, hlines, Option.map_some]
    · rw [List.mapM_cons, hline.read_eq, hread]
      rfl

/-! ## Items -/

/-- A name that is read back from a list: it has no quote and no line break. -/
def Quotable (name : String) : Prop :=
  '"' ∉ name.toList ∧ '\n' ∉ name.toList

/-- A number is written in digits. -/
private theorem isDigit_of_mem_toString {n : Nat} {c : Char} (h : c ∈ (toString n).toList) :
    c.isDigit = true := by
  have hnumeral := isNumeral_toString n
  rw [isNumeral, Bool.and_eq_true] at hnumeral
  exact List.all_eq_true.mp hnumeral.2 c h

/-- A number is read back where no digit follows it. -/
private theorem splitNumber_append (n : Nat) (rest : List Char)
    (h : ∀ c ∈ rest.head?, c.isDigit = false) :
    splitNumber ((toString n).toList ++ rest) = (n, rest) := by
  have hdigits : ∀ c ∈ (toString n).toList, c.isDigit = true := fun _ => isDigit_of_mem_toString
  rw [splitNumber, Text.takeWhile_append_of_stop hdigits h, Text.dropWhile_append_of_stop hdigits h,
    Text.decimal_toString]

/-- The beginning of a text is taken off it. -/
private theorem stripPrefix?_append (beginning rest : List Char) :
    Text.stripPrefix? beginning (beginning ++ rest) = some rest :=
  (Text.stripPrefix?_eq_some_iff _ _ _).mpr rfl

/-- The line of a group is read back. -/
theorem listItem_groupLine {g : Group} (h : Quotable g.name) :
    ∃ line, ListItem groupLine group? g line := by
  -- the rest of the line behind each part, from the last part to the first
  let behindCount := (Layout.closeBrace ++ ",").toList
  let behindStart := ", ".toList ++ ((toString g.count).toList ++ behindCount)
  let behindName := "\", ".toList ++ ((toString g.start).toList ++ behindStart)
  have hname := takeWhile_ne (", ".toList ++ ((toString g.start).toList ++ behindStart)) h.1
  have hstart := splitNumber_append g.start behindStart (by intro c hc; cases hc; rfl)
  have hcount := splitNumber_append g.count behindCount (by intro c hc; cases hc; rfl)
  refine ⟨("  " ++ Layout.openBrace ++ "\"").toList ++ (g.name.toList ++ behindName), ?_, ?_, rfl,
    ?_⟩
  · -- what is written
    simp only [groupLine, behindName, behindStart, behindCount, String.toList_append,
      List.append_assoc]
    rfl
  · -- no line break among it
    have hdigits : ∀ n : Nat, '\n' ∉ (toString n).toList := by
      intro n hmem
      exact absurd (isDigit_of_mem_toString hmem) (by decide)
    simp only [behindName, behindStart, behindCount, List.mem_append, not_or]
    exact ⟨by decide, h.2, by decide, hdigits _, by decide, hdigits _, by decide⟩
  · -- read back part by part, each up to the character that stops it
    have hquoted : behindName =
        '"' :: (", ".toList ++ ((toString g.start).toList ++ behindStart)) := rfl
    simp only [group?, stripPrefix?_append, Option.bind_eq_bind, Option.bind_some, hquoted,
      hname.1, hname.2]
    rw [← hquoted, stripPrefix?_append]
    simp only [Option.bind_some, hstart, stripPrefix?_append, behindStart, hcount, behindCount,
      beq_self_eq_true, if_true, String.ofList_toList]
    rfl

/-- The line of a name is read back. -/
theorem listItem_nameLine {name : String} (h : Quotable name) :
    ∃ line, ListItem nameLine name? name line := by
  have hname := takeWhile_ne [','] h.1
  refine ⟨"  \"".toList ++ (name.toList ++ ['"', ',']), ?_, ?_, rfl, ?_⟩
  · simp only [nameLine, String.toList_append, List.append_assoc]
    rfl
  · simp only [List.mem_append, not_or]
    exact ⟨by decide, h.2, by decide⟩
  · simp only [name?, stripPrefix?_append, Option.bind_eq_bind, Option.bind_some, hname.1, hname.2,
      String.ofList_toList]
    rfl

/-- The source behind the bound of the name lookup does not go on with a digit. -/
private theorem head?_tableSourceEnding (n : Naming) :
    (tableSourceEnding n).toList.head? = some ')' := by
  have hfirst : ")\n".toList.head? = some ')' := rfl
  -- opened without its equation, which takes long to make out of so many literals
  delta tableSourceEnding
  simp only [String.toList_append, List.append_assoc]
  rw [List.head?_append, hfirst, Option.some_or]

/-- The parts of the source, from the first to the last. -/
private theorem toList_tableSource (config : Config) (t : FunctionTable) :
    (tableSource config t).toList =
      (tableSourceOpening config.naming).toList ++
        ((String.join (t.groups.map groupLine)).toList ++ (closing.toList ++
          (tableSourceBetween.toList ++
            ((String.join (t.names.map nameLine)).toList ++ (closing.toList ++
              (tableSourceLookup.toList ++ ((toString t.length).toList ++
                (tableSourceEnding config.naming).toList))))))) := by
  simp only [tableSource, String.toList_append, List.append_assoc]

/-- A step whose result is known is passed. -/
private theorem bind_of_eq_some {α β : Type} {x : Option α} {a : α} (h : x = some a)
    (f : α → Option β) : x >>= f = f a := by
  rw [h]
  rfl

/-- A source is read part by part. -/
private theorem readTableSource_of_parts {naming : Naming} {source : String}
    {listed between named lookup bound : List Char} {groupLines nameLines : List (List Char)}
    {groups : List Group} {names : List String}
    (hopening : Text.stripPrefix? (tableSourceOpening naming).toList source.toList = some listed)
    (hgroups : listLines listed = some (groupLines, between))
    (hbetween : Text.stripPrefix? tableSourceBetween.toList between = some named)
    (hnames : listLines named = some (nameLines, lookup))
    (hlookup : Text.stripPrefix? tableSourceLookup.toList lookup = some bound)
    (hreadNames : nameLines.mapM name? = some names)
    (hreadGroups : groupLines.mapM group? = some groups) :
    readTableSource naming source = some (⟨names, groups⟩, (splitNumber bound).1) := by
  -- one step at a time, so that no literal has to be evaluated
  rw [readTableSource, bind_of_eq_some hopening, bind_of_eq_some hgroups]
  dsimp only
  rw [bind_of_eq_some hbetween, bind_of_eq_some hnames]
  dsimp only
  rw [bind_of_eq_some hlookup, bind_of_eq_some hreadNames, bind_of_eq_some hreadGroups]
  rfl

/-- The source of a function table is read back as the table and its length. -/
theorem readTableSource_tableSource (config : Config) {t : FunctionTable}
    (hgroups : ∀ g ∈ t.groups, Quotable g.name) (hnames : ∀ name ∈ t.names, Quotable name) :
    readTableSource config.naming (tableSource config t) = some (t, t.length) := by
  have hending : ∀ c ∈ (tableSourceEnding config.naming).toList.head?, c.isDigit = false := by
    rw [head?_tableSourceEnding]
    intro c hc
    cases hc
    rfl
  -- the length is the last thing that is read, and a parenthesis stands behind it
  have hbound := splitNumber_append t.length _ hending
  -- the lists are read in front of what is left, so the rests get names
  let lookup := tableSourceLookup.toList ++
    ((toString t.length).toList ++ (tableSourceEnding config.naming).toList)
  let between := tableSourceBetween.toList ++
    ((String.join (t.names.map nameLine)).toList ++ (closing.toList ++ lookup))
  obtain ⟨groupLines, hgroupLines, hreadGroups⟩ := listLines_join
    (fun g hg => listItem_groupLine (hgroups g hg)) between
  obtain ⟨nameLines, hnameLines, hreadNames⟩ := listLines_join
    (fun name hname => listItem_nameLine (hnames name hname)) lookup
  have hopening : Text.stripPrefix? (tableSourceOpening config.naming).toList
      (tableSource config t).toList =
        some ((String.join (t.groups.map groupLine)).toList ++ (closing.toList ++ between)) := by
    rw [toList_tableSource]
    exact stripPrefix?_append _ _
  have hread := readTableSource_of_parts hopening hgroupLines (stripPrefix?_append _ _) hnameLines
    (stripPrefix?_append _ _) hreadNames hreadGroups
  rw [hread, hbound]

end VulkanGen.Artifact
