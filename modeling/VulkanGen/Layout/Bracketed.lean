import VulkanGen.Layout

/-!
# Bracketed texts

A bracketed text is a sequence of characters and groups; a group is a bracketed
text between an opening bracket and its own closing one.  What stands directly in
a text, and not inside a group of it, can be told from its structure alone.

* `text`        the text of a sequence
* `breakDirect` breaks behind the commas that stand directly in a sequence
* `firstParenthesis?`, `FirstParenthesis.broken`  breaks behind the commas that stand
  directly in the first parenthesis of a sequence
-/

namespace VulkanGen.Layout

/-- A kind of bracket. -/
inductive Bracket where
  | round
  | square
  | angle
  deriving DecidableEq, Repr

/-- The opening bracket of a kind. -/
def Bracket.opening : Bracket → Char
  | round => '('
  | square => '['
  | angle => '<'

/-- The closing bracket of a kind. -/
def Bracket.closing : Bracket → Char
  | round => ')'
  | square => ']'
  | angle => '>'

/-- Whether a character is a bracket. -/
def isBracket (c : Char) : Bool :=
  ['(', ')', '[', ']', '<', '>'].contains c

/-- A character, or a group between two brackets. -/
inductive Bracketed where
  | char (c : Char)
  | group (bracket : Bracket) (items : List Bracketed)

namespace Bracketed

mutual

/-- The text of one item. -/
def itemText : Bracketed → List Char
  | char c => [c]
  | group bracket items => bracket.opening :: text items ++ [bracket.closing]

/-- The text of a sequence. -/
def text : List Bracketed → List Char
  | [] => []
  | item :: rest => itemText item ++ text rest

end

mutual

/-- Whether one item is properly nested: no single character of it is a bracket. -/
def nestedItem : Bracketed → Bool
  | char c => !isBracket c
  | group _ items => nested items

/-- Whether a sequence is properly nested. -/
def nested : List Bracketed → Bool
  | [] => true
  | item :: rest => nestedItem item && nested rest

end

/-- Whether an item is a single space. -/
def isSpace : Bracketed → Bool
  | char c => c == ' '
  | group _ _ => false

/-- The text of a sequence in which each comma that stands directly in it is
followed by a break of `indent` spaces in place of the spaces there.  `broken`
tells that such a comma has just been read. -/
def breakDirectFrom (indent : Nat) (broken : Bool) : List Bracketed → List Char
  | [] => []
  | item :: rest =>
    if broken && item.isSpace then breakDirectFrom indent true rest
    else
      match item with
      | char ',' =>
        ',' :: '\n' :: List.replicate indent ' ' ++ breakDirectFrom indent true rest
      | item => itemText item ++ breakDirectFrom indent false rest

/-- The text of a sequence with a break behind each comma that stands directly in it. -/
def breakDirect (indent : Nat) (items : List Bracketed) : List Char :=
  breakDirectFrom indent false items

/-- Whether an item is a comma. -/
def isComma : Bracketed → Bool
  | char c => c == ','
  | group _ _ => false

/-- The number of commas that stand directly in a group. -/
def commas : Bracketed → Nat
  | char _ => 0
  | group _ items => items.countP isComma

/-- The text of an item with a break behind each comma that stands directly in it. -/
def breakInside (indent : Nat) : Bracketed → List Char
  | char c => [c]
  | group bracket items => bracket.opening :: (breakDirect indent items ++ [bracket.closing])

end Bracketed

open Bracketed

/-- A sequence around its first parenthesis. -/
structure FirstParenthesis where
  before : List Char
  inside : List Bracketed
  /-- What stands behind the parenthesis, beside it and beside the groups around it.  The
  closing brackets of these groups are single characters here. -/
  behind : List Bracketed

namespace FirstParenthesis

/-- The text around a first parenthesis. -/
def text (f : FirstParenthesis) : List Char :=
  f.before ++ '(' :: (Bracketed.text f.inside ++ ')' :: Bracketed.text f.behind)

/-- The same text with a break behind each comma that stands directly in the parenthesis. -/
def broken (indent : Nat) (f : FirstParenthesis) : List Char :=
  f.before ++ '(' :: (breakDirect indent f.inside ++ ')' :: Bracketed.text f.behind)

/-- The column just past the parenthesis of a text that starts at `column`. -/
def indent (column : Nat) (f : FirstParenthesis) : Nat :=
  column + (String.ofList f.before).utf8ByteSize + 1

end FirstParenthesis

mutual

/-- The first parenthesis of one item. -/
def Bracketed.firstOfItem? : Bracketed → Option FirstParenthesis
  | char _ => none
  | group .round items => some ⟨[], items, []⟩
  | group bracket items => (firstParenthesis? items).map fun f =>
    ⟨bracket.opening :: f.before, f.inside, f.behind ++ [char bracket.closing]⟩

/-- The first parenthesis of a sequence. -/
def Bracketed.firstParenthesis? : List Bracketed → Option FirstParenthesis
  | [] => none
  | item :: rest =>
    match firstOfItem? item with
    | some f => some { f with behind := f.behind ++ rest }
    | none => (firstParenthesis? rest).map fun f => { f with before := itemText item ++ f.before }

end

end VulkanGen.Layout
