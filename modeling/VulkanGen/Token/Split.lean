import VulkanGen.Declaration.Grammar
import VulkanGen.Text.Places

/-!
# Splits

When tokens are those of a text can be said without a scanner: each token is the part of
the text at its span and has the form of its kind, the spans follow each other and leave
out the blanks only, and no word could be longer.

* `Token.Split`         when tokens are those of a text
* `Token.IsFirstStray`  the first character that belongs to no token and is no blank
-/

namespace VulkanGen.Token

/-- A character that separates tokens or is part of one. -/
def IsLexical (c : Char) : Prop :=
  Text.isBlank c = true ∨ c.isAlpha = true ∨ c.isDigit = true ∨
    c ∈ ['_', '*', '(', ')', '[', ']', ',', ';']

/-- The first character of a text that is not lexical is `c`, at byte `i`. -/
def IsFirstStray (offset : Nat) (cs : List Char) (i : Nat) (c : Char) : Prop :=
  ¬IsLexical c ∧ ∃ before behind, cs = before ++ c :: behind ∧ i = offset + Text.bytes before ∧
    ∀ d ∈ before, IsLexical d

/-- Byte `b` is one of a token's. -/
def Spans (t : Token) (b : Nat) : Prop :=
  t.start ≤ b ∧ b < t.stop

/-- A token has the form of its kind: an identifier, a run of digits or the mark. -/
def HasForm (t : Token) : Prop :=
  match t.kind with
  | .identifier => isIdentifier t.text = true
  | .integer => isNumeral t.text = true
  | mark => ∃ c, mark.mark? = some c ∧ t.text.toList = [c]

/-- The tokens are those of a text that starts at byte `offset`. -/
structure Split (offset : Nat) (cs : List Char) (tokens : List Token) : Prop where
  stands : ∀ t ∈ tokens, ∃ behind, Text.StandsAt offset cs t.start t.text.toList behind
  nonempty : ∀ t ∈ tokens, t.start < t.stop
  ascending : tokens.Pairwise fun t u => t.stop ≤ u.start
  /-- The bytes outside the spans are those of the blanks. -/
  outside : ∀ b, Text.BlankAt offset cs b ↔
    offset ≤ b ∧ b < offset + Text.bytes cs ∧ ∀ t ∈ tokens, ¬t.Spans b
  formed : ∀ t ∈ tokens, t.HasForm
  /-- No letter, digit or `_` follows an identifier, and no digit an integer. -/
  maximal : ∀ t ∈ tokens, ∀ behind, Text.StandsAt offset cs t.start t.text.toList behind →
    ∀ c ∈ behind.head?, (t.kind = .identifier → isWordPart c = false) ∧
      (t.kind = .integer → c.isDigit = false)

end VulkanGen.Token
