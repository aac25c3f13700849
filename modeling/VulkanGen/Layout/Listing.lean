import VulkanGen.Layout

/-!
# Lines of code

A listing is a line of code that lists parameters or arguments in a parenthesis.  It stays
on one line where it fits, and where there is nothing to break.  Otherwise each item has a
line of its own, and the items stand below each other, just past the parenthesis.

* `Listing.laid`, `CodeLine.laid`  lines of code in a width
* `codeText`                       the text of several
* `Listing.Proper`                 listings that wrapping can be told about
-/

namespace VulkanGen.Layout

/-- A line of code that lists items in a parenthesis. -/
structure Listing where
  /-- Where it starts. -/
  column : Nat
  /-- What stands in front of the parenthesis. -/
  opening : List Char
  items : List (List Char)
  /-- What stands behind the parenthesis. -/
  ending : List Char

namespace Listing

/-- What is listed, with something between the items, up to the end of the line. -/
def listed (l : Listing) (separator : List Char) : List Char :=
  separator.intercalate l.items ++ ')' :: l.ending

/-- The text of a listing, with something between its items. -/
def textWith (l : Listing) (separator : List Char) : List Char :=
  l.opening ++ '(' :: l.listed separator

/-- What stands between items on one line. -/
def comma : List Char :=
  [',', ' ']

/-- What stands between items that have lines of their own. -/
def commaBreak (indent : Nat) : List Char :=
  ',' :: '\n' :: List.replicate indent ' '

/-- The text of a listing that is on one line. -/
def text (l : Listing) : List Char :=
  l.textWith comma

/-- The column just past the parenthesis. -/
def listColumn (l : Listing) : Nat :=
  l.column + l.opening.length + 1

/-- Whether a listing stays on one line. -/
def StaysWhole (maxWidth : Nat) (l : Listing) : Prop :=
  maxWidth = 0 ∨ l.column + l.text.length ≤ maxWidth ∨ l.items.length < 2

instance (maxWidth : Nat) (l : Listing) : Decidable (l.StaysWhole maxWidth) :=
  inferInstanceAs (Decidable (_ ∨ _ ∨ _))

/-- A listing in a width: on one line, or with one item on each. -/
def laid (maxWidth : Nat) (l : Listing) : List Char :=
  List.replicate l.column ' ' ++
    if l.StaysWhole maxWidth then l.text else l.textWith (commaBreak l.listColumn)

end Listing

/-- A line of code. -/
inductive CodeLine where
  | plain (text : List Char)
  | listing (l : Listing)

/-- A line of code in a width. -/
def CodeLine.laid (maxWidth : Nat) : CodeLine → List Char
  | plain text => text
  | listing l => l.laid maxWidth

/-- Lines of code in a width, each with its line break. -/
def codeText (maxWidth : Nat) (lines : List CodeLine) : List Char :=
  lines.flatMap fun line => line.laid maxWidth ++ ['\n']

@[simp] theorem codeText_nil (maxWidth : Nat) : codeText maxWidth [] = [] := rfl

@[simp] theorem codeText_cons (maxWidth : Nat) (line : CodeLine) (lines : List CodeLine) :
    codeText maxWidth (line :: lines) = line.laid maxWidth ++ '\n' :: codeText maxWidth lines := by
  rw [codeText, List.flatMap_cons, List.append_assoc]
  rfl

@[simp] theorem codeText_append (maxWidth : Nat) (front back : List CodeLine) :
    codeText maxWidth (front ++ back) = codeText maxWidth front ++ codeText maxWidth back :=
  List.flatMap_append

/-- Whether a character takes one column and one byte, and neither is a comma nor breaks
the line. -/
def isInline (c : Char) : Bool :=
  c.utf8Size == 1 && c != ',' && c != '\n'

/-- An item without commas and line breaks, which does not start with a space and closes
the brackets that it opens. -/
structure ProperItem (item : List Char) : Prop where
  inline : ∀ c ∈ item, isInline c = true
  starts : item.head? ≠ some ' '
  closes : item.foldl depthBehind 1 = 1

/-- A listing whose only commas are those between its items. -/
structure Listing.Proper (l : Listing) : Prop where
  opening : ∀ c ∈ l.opening, isInline c = true
  items : ∀ item ∈ l.items, ProperItem item
  ending : ∀ c ∈ l.ending, isInline c = true

/-- A proper line of code. -/
def CodeLine.Proper : CodeLine → Prop
  | plain text => ∀ c ∈ text, isInline c = true
  | listing l => l.Proper

end VulkanGen.Layout
