import VulkanGen.Declaration.Grammar

/-!
# Layouts of declarations

A layout writes a declaration with blanks of any kind and number in front of its
lexemes.  A few blanks are needed or forbidden: adjacent words are kept apart,
the two markers stand on one line, and nothing stands between the last two marks.
A header may write its declarations one below the other, each in a layout of its
own.

* `DeclarationLayout.text`     the text of a layout
* `DeclarationLayout.Allowed`  which layouts may be used
* `DeclarationLayout.prototypesFrom`  what the declarations of a header declare
-/

namespace VulkanGen

/-- A lexeme and the blanks in front of it. -/
structure PlacedLexeme where
  gap : List Char
  lexeme : Lexeme
  deriving DecidableEq

/-- The text of a lexeme with the blanks in front of it. -/
def PlacedLexeme.text (l : PlacedLexeme) : List Char :=
  l.gap ++ l.lexeme.text.toList

/-- Adjacent words have blanks between them. -/
def WordsApart : List PlacedLexeme → Prop
  | l :: m :: rest =>
    (l.lexeme.isWord → m.lexeme.isWord → m.gap ≠ []) ∧ WordsApart (m :: rest)
  | _ => True

/-- Whether words are apart is checked pair by pair. -/
def decideWordsApart : (placed : List PlacedLexeme) → Decidable (WordsApart placed)
  | [] | [_] => isTrue trivial
  | l :: m :: rest =>
    have := decideWordsApart (m :: rest)
    inferInstanceAs (Decidable ((l.lexeme.isWord → m.lexeme.isWord → m.gap ≠ []) ∧ _))

instance (placed : List PlacedLexeme) : Decidable (WordsApart placed) :=
  decideWordsApart placed

/-- A declaration with the blanks in front of its lexemes and behind the last one. -/
structure DeclarationLayout where
  form : DeclarationForm
  placed : List PlacedLexeme
  trailing : List Char

namespace DeclarationLayout

/-- The text of a layout, which ends in a line break. -/
def text (d : DeclarationLayout) : List Char :=
  d.placed.flatMap PlacedLexeme.text ++ d.trailing ++ ['\n']

/-- The lexemes behind the first marker up to the second one. -/
def betweenMarkers (d : DeclarationLayout) : List PlacedLexeme :=
  (d.placed.drop 1).take (d.form.returnType.length + 1)

/-- Whether a layout writes its form and keeps to the rules. -/
structure Allowed (d : DeclarationLayout) : Prop where
  lexemes_eq : d.placed.map (·.lexeme) = d.form.lexemes
  blank_gaps : ∀ l ∈ d.placed, l.gap.all Text.isBlank
  blank_trailing : d.trailing.all Text.isBlank
  words_apart : WordsApart d.placed
  markers_together : ∀ l ∈ d.betweenMarkers, '\n' ∉ l.gap
  terminator_together : d.placed.getLast?.map (·.gap) = some []

instance (d : DeclarationLayout) : Decidable d.Allowed :=
  decidable_of_iff
    (d.placed.map (·.lexeme) = d.form.lexemes ∧ (∀ l ∈ d.placed, l.gap.all Text.isBlank) ∧
      d.trailing.all Text.isBlank ∧ WordsApart d.placed ∧
      (∀ l ∈ d.betweenMarkers, '\n' ∉ l.gap) ∧ d.placed.getLast?.map (·.gap) = some [])
    ⟨fun ⟨h₁, h₂, h₃, h₄, h₅, h₆⟩ => ⟨h₁, h₂, h₃, h₄, h₅, h₆⟩,
      fun h => ⟨h.1, h.2, h.3, h.4, h.5, h.6⟩⟩

/-- The number of line breaks in front of the first marker. -/
def leadingBreaks (d : DeclarationLayout) : Nat :=
  (d.placed.headD ⟨[], .word ""⟩).gap.count '\n'

/-- The prototypes of declarations that are written one below the other from a
line on. -/
def prototypesFrom (line : Nat) : List DeclarationLayout → List Prototype
  | [] => []
  | d :: rest =>
    d.form.prototype (line + d.leadingBreaks) :: prototypesFrom (line + d.text.count '\n') rest

end DeclarationLayout

end VulkanGen
