import VulkanGen.Text.Digits
import VulkanGen.Text.Runs

/-!
# TOML: blanks, comments, strings and keys

A reader takes the text that is left and gives back a value and the rest.  A
reader that fails tells how many characters were left, from which the line of the
failure follows.

Blanks are spaces and tabs; a line break is a line feed, with or without one
carriage return in front of it.  A string is basic (with escapes) or literal, on
one line or on several.  A key is a sequence of parts with dots between them.

* `length_escape`  an escape takes at least one character
-/

namespace VulkanGen.Toml

/-- A reader; its error is the number of characters that were left. -/
abbrev Reader (α : Type) := List Char → Except Nat (α × List Char)

/-- Fails in front of a text. -/
def fail {α : Type} (cs : List Char) : Except Nat α :=
  .error cs.length

/-- A blank: a space or a tab. -/
def isSpace (c : Char) : Bool :=
  c == ' ' || c == '\t'

/-- The rest of a text behind its leading blanks. -/
def skipSpace (cs : List Char) : List Char :=
  cs.dropWhile isSpace

/-- A character that a comment or a literal string may hold: a tab or any
character that is not a control character. -/
def isPlain (c : Char) : Bool :=
  c == '\t' || (0x20 ≤ c.toNat && c.toNat != 0x7F)

/-- Reads a line break. -/
def lineBreak? : List Char → Option (List Char)
  | '\n' :: rest => some rest
  | '\r' :: '\n' :: rest => some rest
  | _ => none

/-- The rest of a text behind a comment, if it starts with one. -/
def skipComment : List Char → List Char
  | '#' :: rest => rest.dropWhile isPlain
  | cs => cs

/-- Reads the end of a line: blanks, a comment, and a line break or the end of
the text. -/
def lineEnd : Reader Unit := fun cs =>
  match skipComment (skipSpace cs) with
  | [] => .ok ((), [])
  | rest =>
    match lineBreak? rest with
    | some rest => .ok ((), rest)
    | none => fail rest

/-! ## Escapes -/

/-- The value of a hexadecimal digit. -/
def hexValue (c : Char) : Nat :=
  if c.isDigit then c.toNat - '0'.toNat
  else if c.isLower then c.toNat - 'a'.toNat + 10
  else c.toNat - 'A'.toNat + 10

/-- A hexadecimal digit. -/
def isHex (c : Char) : Bool :=
  c.isDigit || ('a' ≤ c && c ≤ 'f') || ('A' ≤ c && c ≤ 'F')

/-- The value of a text of hexadecimal digits. -/
def hexadecimal (cs : List Char) : Nat :=
  Text.ofDigits 16 hexValue 0 cs

/-- Reads a character that is given by its code in `count` hexadecimal digits. -/
def codePoint (count : Nat) : Reader Char := fun cs =>
  let digits := cs.take count
  if digits.length == count && digits.all isHex && (hexadecimal digits).isValidChar then
    .ok (.ofNat (hexadecimal digits), cs.drop count)
  else fail cs

/-- Reads what follows the backslash of an escape. -/
def escape : Reader Char
  | 'b' :: rest => .ok ('\x08', rest)
  | 't' :: rest => .ok ('\t', rest)
  | 'n' :: rest => .ok ('\n', rest)
  | 'f' :: rest => .ok ('\x0c', rest)
  | 'r' :: rest => .ok ('\r', rest)
  | '"' :: rest => .ok ('"', rest)
  | '\\' :: rest => .ok ('\\', rest)
  | 'u' :: rest => codePoint 4 rest
  | 'U' :: rest => codePoint 8 rest
  | cs => fail cs

theorem length_codePoint {count : Nat} {cs rest : List Char} {c : Char}
    (h : codePoint count cs = .ok (c, rest)) : rest.length ≤ cs.length := by
  simp only [codePoint] at h
  split at h
  · cases h
    simp
  · exact nomatch h

/-- An escape takes at least one character. -/
theorem length_escape {cs rest : List Char} {c : Char} (h : escape cs = .ok (c, rest)) :
    rest.length < cs.length := by
  unfold escape at h
  split at h <;>
    first
    | (cases h; simp)
    | (have hlen := length_codePoint h; simp only [List.length_cons]; omega)
    | exact nomatch h

/-! ## Strings -/

/-- Puts a character in front of the value of a reader's result. -/
def consTo (c : Char) (r : Except Nat (List Char × List Char)) :
    Except Nat (List Char × List Char) :=
  r.map fun (text, rest) => (c :: text, rest)

/-- Reads a basic string on one line behind its opening quote. -/
def basicString (cs : List Char) : Except Nat (List Char × List Char) :=
  match cs with
  | [] => fail []
  | '"' :: rest => .ok ([], rest)
  | '\\' :: rest =>
    match _h : escape rest with
    | .error e => .error e
    | .ok (c, rest) => consTo c (basicString rest)
  | c :: rest => if isPlain c then consTo c (basicString rest) else fail (c :: rest)
termination_by cs.length
decreasing_by
  · have := length_escape ‹_›
    simp only [List.length_cons]
    omega
  · simp

/-- Reads a literal string on one line behind its opening quote. -/
def literalString : Reader (List Char)
  | [] => fail []
  | '\'' :: rest => .ok ([], rest)
  | c :: rest => if isPlain c then consTo c (literalString rest) else fail (c :: rest)

/-- The rest of a text behind blanks and line breaks. -/
def skipBlankLines : List Char → List Char
  | '\r' :: '\n' :: rest => skipBlankLines rest
  | c :: rest => if isSpace c || c == '\n' then skipBlankLines rest else c :: rest
  | [] => []

theorem length_skipBlankLines_le (cs : List Char) : (skipBlankLines cs).length ≤ cs.length := by
  fun_induction skipBlankLines cs <;> simp only [List.length_cons, List.length_nil] at * <;> omega

/-- The rest of a text behind an escaped line break, its backslash not included:
blanks, a line break, and all blanks and line breaks that follow. -/
def escapedBreak? (cs : List Char) : Option (List Char) :=
  (lineBreak? (skipSpace cs)).map skipBlankLines

theorem length_lineBreak? {cs rest : List Char} (h : lineBreak? cs = some rest) :
    rest.length < cs.length := by
  unfold lineBreak? at h
  split at h
  · cases h
    simp
  · cases h
    simp only [List.length_cons]
    omega
  · exact nomatch h

theorem length_escapedBreak? {cs rest : List Char} (h : escapedBreak? cs = some rest) :
    rest.length < cs.length := by
  obtain ⟨rest', hb, rfl⟩ := Option.map_eq_some_iff.1 h
  have h₁ := length_lineBreak? hb
  have h₂ := Text.length_dropWhile_le isSpace cs
  have h₃ := length_skipBlankLines_le rest'
  simp only [skipSpace] at h₁
  omega

/-- How many quotes a text starts with. -/
def quotes (quote : Char) (cs : List Char) : Nat :=
  (cs.takeWhile (· == quote)).length

/-- Reads the quotes that close a string on several lines: three of them, and up
to two more in front that belong to the string. -/
def closingQuotes (quote : Char) (cs : List Char) : List Char × List Char :=
  let inside := min (quotes quote cs - 3) 2
  (List.replicate inside quote, cs.drop (inside + 3))

/-- Reads a basic string on several lines behind its opening quotes. -/
def basicLines (cs : List Char) : Except Nat (List Char × List Char) :=
  match cs with
  | [] => fail []
  | '\n' :: rest => consTo '\n' (basicLines rest)
  | '\r' :: '\n' :: rest => consTo '\n' (basicLines rest)
  | '\\' :: rest =>
    match _h : escapedBreak? rest with
    | some rest => basicLines rest
    | none =>
      match _h : escape rest with
      | .error e => .error e
      | .ok (c, rest) => consTo c (basicLines rest)
  | c :: rest =>
    if c == '"' && quotes '"' (c :: rest) ≥ 3 then .ok (closingQuotes '"' (c :: rest))
    else if isPlain c then consTo c (basicLines rest)
    else fail (c :: rest)
termination_by cs.length
decreasing_by
  · simp
  · simp only [List.length_cons]
    omega
  · have := length_escapedBreak? ‹_›
    simp only [List.length_cons]
    omega
  · have := length_escape ‹_›
    simp only [List.length_cons]
    omega
  · simp

/-- Reads a literal string on several lines behind its opening quotes. -/
def literalLines : Reader (List Char)
  | [] => fail []
  | '\n' :: rest => consTo '\n' (literalLines rest)
  | '\r' :: '\n' :: rest => consTo '\n' (literalLines rest)
  | c :: rest =>
    if c == '\'' && quotes '\'' (c :: rest) ≥ 3 then .ok (closingQuotes '\'' (c :: rest))
    else if isPlain c then consTo c (literalLines rest)
    else fail (c :: rest)

/-- A string on several lines does not start with a line break. -/
def dropFirstBreak (cs : List Char) : List Char :=
  (lineBreak? cs).getD cs

/-- Reads a string of any kind. -/
def string : Reader (List Char)
  | '"' :: '"' :: '"' :: rest => basicLines (dropFirstBreak rest)
  | '"' :: rest => basicString rest
  | '\'' :: '\'' :: '\'' :: rest => literalLines (dropFirstBreak rest)
  | '\'' :: rest => literalString rest
  | cs => fail cs

/-! ## Keys -/

/-- A character of a key without quotes. -/
def isBare (c : Char) : Bool :=
  c.isAlphanum || c == '-' || c == '_'

/-- Reads one part of a key. -/
def keyPart : Reader String
  | '"' :: rest => (basicString rest).map fun (text, rest) => (.ofList text, rest)
  | '\'' :: rest => (literalString rest).map fun (text, rest) => (.ofList text, rest)
  | cs =>
    let part := cs.takeWhile isBare
    if part.isEmpty then fail cs else .ok (.ofList part, cs.dropWhile isBare)

/-- How deep a document nests at most: the parts of a key, and the lists and
tables inside each other, stay below this number. -/
def depthLimit : Nat := 80

/-- Reads the parts of a key, at most `limit` of them, with blanks around each. -/
def keyParts (limit : Nat) : Reader (List String) := fun cs =>
  match limit with
  | 0 => fail cs
  | limit + 1 => do
    let (part, rest) ← keyPart (skipSpace cs)
    match skipSpace rest with
    | '.' :: rest =>
      let (parts, rest) ← keyParts limit rest
      return (part :: parts, rest)
    | rest => return ([part], rest)

/-- Reads a key. -/
def key : Reader (List String) :=
  keyParts (depthLimit - 1)

end VulkanGen.Toml
