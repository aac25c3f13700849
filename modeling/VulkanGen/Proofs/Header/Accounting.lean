import VulkanGen.Proofs.Declaration.Accounting
import VulkanGen.Proofs.Header.Isolation
import VulkanGen.Proofs.List.Basic

/-!
# Every declaration is accounted for

A span either fits the grammar and becomes a prototype, or it does not and becomes a
diagnostic; the span that the input leaves open becomes the last diagnostic.  All of them
keep the line they start on, and no two spans start on the same line, so the line of a
prototype or of a diagnostic tells which declaration it is.

The diagnostics are in the order of their lines.  It does not matter in which order they
are found: sorting them by line, with the open span in front or behind, gives this list.

## Key results

- `Extraction.Accounts.sort_diagnostics`: the order of the diagnostics
- `Header.parse_accounts`: each declaration makes one prototype or one diagnostic
-/

namespace VulkanGen

namespace Span

/-- A diagnostic of spans is that of one that does not fit the grammar. -/
private theorem mem_malformed_iff (spans : List Span) (d : Diagnostic) :
    d ∈ malformed spans ↔
      ∃ span ∈ spans, ∃ cause,
        Prototype.ofSpan span = .error cause ∧ d = .malformed span cause := by
  rw [malformed, List.mem_filterMap]
  refine exists_congr fun span => and_congr_right fun _ => ?_
  cases Prototype.ofSpan span <;> simp [eq_comm]

/-- Each span makes one prototype or one diagnostic. -/
private theorem length_prototypes_add_malformed (spans : List Span) :
    (prototypes spans).length + (malformed spans).length = spans.length := by
  induction spans with
  | nil => rfl
  | cons span spans ih =>
    rw [← List.singleton_append, prototypes_append, malformed_append]
    simp only [List.length_append, List.length_singleton]
    -- the first span counts on one of the two sides, whichever way it is read
    cases hread : Prototype.ofSpan span with
    | ok p =>
      have hone : prototypes [span] = [p] := by simp [prototypes, hread, Except.toOption]
      have hnone : malformed [span] = [] := by simp [malformed, hread]
      rw [hone, hnone]
      simp only [List.length_singleton, List.length_nil]
      omega
    | error cause =>
      have hnone : prototypes [span] = [] := by simp [prototypes, hread, Except.toOption]
      have hone : malformed [span] = [.malformed span cause] := by simp [malformed, hread]
      rw [hone, hnone]
      simp only [List.length_singleton, List.length_nil]
      omega

/-- A span gives a prototype if it is read as that. -/
private theorem toOption_ofSpan_eq_some_iff (span : Span) (p : Prototype) :
    (Prototype.ofSpan span).toOption = some p ↔ Prototype.ofSpan span = .ok p := by
  cases Prototype.ofSpan span <;> simp [Except.toOption]

variable {spans : List Span}

/-- A span that fits the grammar makes a prototype of its line, and any other a diagnostic. -/
private theorem read_or_malformed {span : Span} (h : span ∈ spans) :
    (∃ p ∈ prototypes spans, Prototype.ofSpan span = .ok p ∧ p.line = span.line) ∨
      ∃ cause, Prototype.ofSpan span = .error cause ∧ .malformed span cause ∈ malformed spans := by
  cases hread : Prototype.ofSpan span with
  | ok p =>
    left
    exact ⟨p, (mem_prototypes_iff _ _).mpr ⟨span, h, hread⟩, rfl, Prototype.line_of_ofSpan hread⟩
  | error cause =>
    right
    exact ⟨cause, rfl, (mem_malformed_iff _ _).mpr ⟨span, h, cause, hread, rfl⟩⟩

/-- Prototypes are in the order of their spans. -/
theorem ascending_prototypes (h : spans.Pairwise fun a b => a.line < b.line) :
    (prototypes spans).Pairwise fun p q => p.line < q.line := by
  apply List.Pairwise.filterMap _ _ h
  intro a b hab p hp q hq
  rw [toOption_ofSpan_eq_some_iff] at hp hq
  rw [Prototype.line_of_ofSpan hp, Prototype.line_of_ofSpan hq]
  exact hab

/-- Diagnostics are in the order of their spans. -/
private theorem ascending_malformed (h : spans.Pairwise fun a b => a.line < b.line) :
    (malformed spans).Pairwise fun d e => d.line < e.line := by
  apply List.Pairwise.filterMap _ _ h
  intro a b hab d hd e he
  -- only spans with an error are left, each with the line it had
  cases ha : Prototype.ofSpan a with
  | ok p => simp [ha] at hd
  | error cause =>
    cases hb : Prototype.ofSpan b with
    | ok q => simp [hb] at he
    | error other =>
      simp only [ha, hb, Option.some.injEq] at hd he
      rw [← hd, ← he]
      exact hab

/-- A prototype and a diagnostic do not start on the same line. -/
private theorem line_ne_of_mem (h : spans.Pairwise fun a b => a.line < b.line) {p : Prototype}
    {d : Diagnostic} (hp : p ∈ prototypes spans) (hd : d ∈ malformed spans) : p.line ≠ d.line := by
  obtain ⟨a, ha, hread⟩ := (mem_prototypes_iff spans p).mp hp
  obtain ⟨b, hb, cause, herror, rfl⟩ := (mem_malformed_iff spans d).mp hd
  intro hline
  rw [Prototype.line_of_ofSpan hread] at hline
  -- one span cannot both fit the grammar and miss it
  have hab : a = b := List.eq_of_ascending h ha hb hline
  rw [hab, herror] at hread
  exact nomatch hread

end Span

/-- Each span makes one prototype or one diagnostic, and so does the span that is left open. -/
private theorem Extraction.length_prototypes_add_diagnostics (e : Extraction) :
    (Span.prototypes e.spans).length + e.diagnostics.length =
      e.spans.length + e.unterminated.toList.length := by
  have hspans := Span.length_prototypes_add_malformed e.spans
  unfold diagnostics
  rw [List.length_append]
  cases e.unterminated with
  | none =>
    show _ + (_ + 0) = _ + 0
    omega
  | some s =>
    show _ + (_ + 1) = _ + 1
    omega

namespace Extraction.Accounts

variable {lines : List (List Char)} {e : Extraction}

/-- The span that is left open starts below the lines of all others. -/
private theorem line_lt_of_malformed (h : Accounts lines e) {d : Diagnostic} {s : OpenSpan}
    (hd : d ∈ Span.malformed e.spans) (hs : e.unterminated = some s) : d.line < s.line := by
  obtain ⟨span, hspan, cause, _, rfl⟩ := (Span.mem_malformed_iff _ _).mp hd
  have hle := (h.spans span hspan).line_le
  have hlt := (h.unterminated s hs).2.2 span hspan
  show span.line < s.line
  omega

/-- Spans are in the order of their lines. -/
theorem line_ascending (h : Accounts lines e) : e.spans.Pairwise fun a b => a.line < b.line := by
  apply h.ascending.imp_of_mem
  intro a b ha _ hab
  have hle := (h.spans a ha).line_le
  omega

/-- Diagnostics are in the order of their lines. -/
private theorem ascending_diagnostics (h : Accounts lines e) :
    e.diagnostics.Pairwise fun a b => a.line < b.line := by
  unfold diagnostics
  rw [List.pairwise_append]
  -- the diagnostic of the open span is the last one
  refine ⟨Span.ascending_malformed h.line_ascending, ?_, ?_⟩
  · cases e.unterminated with
    | none => exact .nil
    | some s => exact List.pairwise_singleton _ _
  · intro d hd last hlast
    rw [Option.mem_toList, Option.map_eq_some_iff] at hlast
    obtain ⟨s, hs, rfl⟩ := hlast
    exact h.line_lt_of_malformed hd hs

/-- The diagnostics may be found in any order, and sorted by their lines. -/
theorem sort_diagnostics (h : Accounts lines e) {ds : List Diagnostic}
    (hperm : ds.Perm e.diagnostics) :
    ds.mergeSort (fun a b => decide (a.line ≤ b.line)) = e.diagnostics := by
  have hascending := h.ascending_diagnostics
  have hsorted : (ds.mergeSort fun a b => decide (a.line ≤ b.line)).Pairwise
      fun a b => decide (a.line ≤ b.line) = true := by
    apply List.pairwise_mergeSort
    · intro a b c hab hbc
      rw [decide_eq_true_eq] at hab hbc ⊢
      omega
    · intro a b
      rw [Bool.or_eq_true, decide_eq_true_eq, decide_eq_true_eq]
      omega
  -- the order leaves no choice, as no two diagnostics have the same line
  have hperm' := (List.mergeSort_perm ds fun a b => decide (a.line ≤ b.line)).trans hperm
  apply hperm'.eq_of_pairwise _ hsorted
  · apply hascending.imp
    intro a b hlt
    rw [decide_eq_true_eq]
    omega
  · -- two diagnostics of one line are the same
    intro a b ha hb hab hba
    rw [decide_eq_true_eq] at hab hba
    exact List.eq_of_ascending hascending (hperm'.subset ha) hb (by omega)

/-- A prototype and a diagnostic do not start on the same line. -/
private theorem line_ne_of_mem (h : Accounts lines e) {p : Prototype} {d : Diagnostic}
    (hp : p ∈ Span.prototypes e.spans) (hd : d ∈ e.diagnostics) : p.line ≠ d.line := by
  unfold diagnostics at hd
  rcases List.mem_append.mp hd with hmalformed | hopen
  · exact Span.line_ne_of_mem h.line_ascending hp hmalformed
  · -- the open span starts below all others
    rw [Option.mem_toList, Option.map_eq_some_iff] at hopen
    obtain ⟨s, hs, rfl⟩ := hopen
    obtain ⟨span, hspan, hread⟩ := (Span.mem_prototypes_iff _ _).mp hp
    have hle := (h.spans span hspan).line_le
    have hlt := (h.unterminated s hs).2.2 span hspan
    rw [Prototype.line_of_ofSpan hread]
    show span.line ≠ s.line
    omega

end Extraction.Accounts

/-- The only diagnostic of a span without an end is that of the span that the input
leaves open. -/
theorem Extraction.unterminated_mem_diagnostics_iff (e : Extraction) (line : Nat) (text : String) :
    .unterminated line text ∈ e.diagnostics ↔
      ∃ s ∈ e.unterminated, line = s.line ∧ text = s.text := by
  unfold diagnostics
  rw [List.mem_append, Span.mem_malformed_iff]
  constructor
  · -- no span that was read gives this diagnostic, so it is that of the open one
    intro hmem
    rcases hmem with ⟨span, _, cause, _, heq⟩ | hopen
    · -- a span that has ended is malformed, not unterminated
      exact nomatch heq
    · rw [Option.mem_toList, Option.map_eq_some_iff] at hopen
      obtain ⟨s, hs, heq⟩ := hopen
      obtain ⟨rfl, rfl⟩ := Diagnostic.unterminated.inj heq
      exact ⟨s, hs, rfl, rfl⟩
  · intro ⟨s, hs, hline, htext⟩
    subst hline htext
    right
    rw [Option.mem_toList, Option.map_eq_some_iff]
    exact ⟨s, hs, rfl⟩

/-- Every declaration of a header is accounted for once.  The spans account for the lines;
each span makes one prototype or one diagnostic, which have the span's line, and so does
the span that is left open; and there are no others. -/
theorem Header.parse_accounts (h : Header) :
    let e := Extraction.ofLines h.lines
    let parsed := h.parse
    e.Accounts h.lines ∧
      (∀ span ∈ e.spans,
        (∃ p ∈ parsed.prototypes, Prototype.ofSpan span = .ok p ∧ p.line = span.line) ∨
        ∃ cause, Prototype.ofSpan span = .error cause ∧
          .malformed span cause ∈ parsed.diagnostics) ∧
      (∀ line text, .unterminated line text ∈ parsed.diagnostics ↔
        ∃ s ∈ e.unterminated, line = s.line ∧
          ∃ bares, List.Forall₂ Text.WithoutReturn (s.block h.lines) bares ∧
            text = .ofList ([' '].intercalate bares)) ∧
      parsed.prototypes.Pairwise (fun p q => p.line < q.line) ∧
      parsed.diagnostics.Pairwise (fun d e => d.line < e.line) ∧
      (∀ p ∈ parsed.prototypes, ∀ d ∈ parsed.diagnostics, p.line ≠ d.line) ∧
      parsed.prototypes.length + parsed.diagnostics.length =
        e.spans.length + e.unterminated.toList.length ∧
      ((e.unterminated.map (·.diagnostic)).toList ++ Span.malformed e.spans).mergeSort
        (fun d e => decide (d.line ≤ e.line)) = parsed.diagnostics := by
  intro e parsed
  have haccounts : e.Accounts h.lines := Extraction.accounts_ofLines h.lines
  -- all parts are read off the account of the spans
  refine ⟨haccounts, ?_, ?_, Span.ascending_prototypes haccounts.line_ascending,
    haccounts.ascending_diagnostics, ?_, e.length_prototypes_add_diagnostics, ?_⟩
  · -- each span is read or reported, with the cause that its reader gives
    intro span hspan
    rcases Span.read_or_malformed hspan with hread | ⟨cause, herror, hmem⟩
    · exact .inl hread
    · exact .inr ⟨cause, herror, List.mem_append_left _ hmem⟩
  · -- the text of the open span is that of its lines
    intro line text
    show _ ∈ e.diagnostics ↔ _
    rw [e.unterminated_mem_diagnostics_iff]
    refine exists_congr fun s => and_congr_right fun hs => ?_
    simp only [(haccounts.unterminated s hs).1.text_eq, forall₂_withoutReturn_iff,
      exists_eq_left]
  · intro p hp d hd
    exact haccounts.line_ne_of_mem hp hd
  · -- the list is in order already, and sorting gives the only such order
    exact haccounts.sort_diagnostics List.perm_append_comm

end VulkanGen
