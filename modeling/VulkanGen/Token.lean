import VulkanGen.Text.Blank
import VulkanGen.Text.Runs

/-!
# Tokens of a declaration

A declaration is made of identifiers, integers and seven punctuation characters.
Blanks only separate tokens.  Offsets count the bytes of the UTF-8 text, so they
stay right behind blanks outside ASCII.

Words are read greedily: an identifier runs over every ASCII letter, digit and
`_` that follows its first character, an integer over every digit.

* `tokensFrom_nil`, `tokensFrom_blank`, `tokensFrom_first`  the steps of the scanner
* `Kind.mark_injective`  a punctuation character stands for one kind
-/

namespace VulkanGen

/-- What a token is. -/
inductive Token.Kind where
  | identifier | integer
  | star | leftParen | rightParen | leftBracket | rightBracket | comma | semicolon
  deriving DecidableEq, Repr

/-- A token with the byte offset of its first character. -/
structure Token where
  kind : Token.Kind
  text : String
  start : Nat
  deriving DecidableEq, Repr

/-- A character that no token starts with. -/
structure LexError where
  offset : Nat
  found : Char
  deriving DecidableEq, Repr

namespace Token

/-- The character of a punctuation token. -/
def Kind.mark? : Kind → Option Char
  | identifier | integer => none
  | star => some '*'
  | leftParen => some '('
  | rightParen => some ')'
  | leftBracket => some '['
  | rightBracket => some ']'
  | comma => some ','
  | semicolon => some ';'

/-- The kind of a punctuation character. -/
def Kind.ofMark? : Char → Option Kind
  | '*' => some star
  | '(' => some leftParen
  | ')' => some rightParen
  | '[' => some leftBracket
  | ']' => some rightBracket
  | ',' => some comma
  | ';' => some semicolon
  | _ => none

/-- How messages name a kind: a word, or the quoted punctuation character. -/
def Kind.describe : Kind → String
  | identifier => "identifier"
  | integer => "integer"
  | star => "'*'"
  | leftParen => "'('"
  | rightParen => "')'"
  | leftBracket => "'['"
  | rightBracket => "']'"
  | comma => "','"
  | semicolon => "';'"

theorem Kind.ofMark?_eq_some_iff (c : Char) (kind : Kind) :
    ofMark? c = some kind ↔ kind.mark? = some c := by
  constructor
  · intro h
    unfold ofMark? at h
    split at h <;> first | cases h; rfl | exact nomatch h
  · intro h
    cases kind <;> simp only [mark?, Option.some.injEq, reduceCtorEq] at h <;> subst h <;> rfl

/-- Two kinds with the same punctuation character are the same. -/
theorem Kind.mark_injective {k l : Kind} {c : Char} (hk : k.mark? = some c)
    (hl : l.mark? = some c) : k = l := by
  rw [← ofMark?_eq_some_iff] at hk hl
  exact Option.some.inj (hk.symm.trans hl)

/-- A character that an identifier can start with. -/
def isWordStart (c : Char) : Bool :=
  c.isAlpha || c == '_'

/-- A character that an identifier can go on with. -/
def isWordPart (c : Char) : Bool :=
  c.isAlphanum || c == '_'

/-- The kind of token that a character starts, if it starts one. -/
def Kind.ofFirst? (c : Char) : Option Kind :=
  if c.isDigit then some integer
  else if isWordStart c then some identifier
  else ofMark? c

/-- The characters that a token of a kind runs on with behind its first one. -/
def Kind.goesOn : Kind → Char → Bool
  | identifier, c => isWordPart c
  | integer, c => c.isDigit
  | _, _ => false

/-- The byte offset behind a token. -/
def stop (token : Token) : Nat :=
  token.start + token.text.utf8ByteSize

/-- Whether a token is the identifier `word`. -/
def isWord (token : Token) (word : String) : Bool :=
  token.kind == .identifier && token.text == word

/-- Whether a token can be part of a type: identifiers and stars can. -/
def isTypeWord (token : Token) : Bool :=
  token.kind == .identifier || token.kind == .star

/-- The tokens of a text that starts at byte `offset`. -/
def tokensFrom (offset : Nat) : List Char → Except LexError (List Token)
  | [] => .ok []
  | c :: cs =>
    if Text.isBlank c then tokensFrom (offset + c.utf8Size) cs
    else
      match Kind.ofFirst? c with
      | none => .error ⟨offset, c⟩
      | some kind =>
        let text : String := .ofList (c :: cs.takeWhile kind.goesOn)
        (tokensFrom (offset + text.utf8ByteSize) (cs.dropWhile kind.goesOn)).map
          (⟨kind, text, offset⟩ :: ·)
termination_by cs => cs.length
decreasing_by
  · simp
  · have := Text.length_dropWhile_le kind.goesOn cs
    simp only [List.length_cons]
    omega

/-- The tokens of a declaration text. -/
def tokenize (text : String) : Except LexError (List Token) :=
  tokensFrom 0 text.toList

@[simp] theorem tokensFrom_nil (offset : Nat) : tokensFrom offset [] = .ok [] := by
  rw [tokensFrom]

/-- A blank only moves the offset on. -/
theorem tokensFrom_blank (offset : Nat) {c : Char} (cs : List Char) (h : Text.isBlank c = true) :
    tokensFrom offset (c :: cs) = tokensFrom (offset + c.utf8Size) cs := by
  rw [tokensFrom, if_pos h]

/-- A token is the longest text of its kind behind its first character. -/
theorem tokensFrom_first (offset : Nat) {c : Char} {kind : Kind} (cs : List Char)
    (hb : Text.isBlank c = false) (hk : Kind.ofFirst? c = some kind) :
    tokensFrom offset (c :: cs) =
      (tokensFrom (offset + (String.ofList (c :: cs.takeWhile kind.goesOn)).utf8ByteSize)
        (cs.dropWhile kind.goesOn)).map
          (⟨kind, .ofList (c :: cs.takeWhile kind.goesOn), offset⟩ :: ·) := by
  rw [tokensFrom, if_neg (by simp [hb])]
  simp only [hk]

end Token

/-- The text of a lexical error. -/
def LexError.message (e : LexError) : String :=
  s!"unexpected character '{e.found}' at offset {e.offset}"

example : ((Token.tokenize "a\u00A0*9x").map (·.map fun t => (t.text, t.start, t.stop))).toOption =
    some [("a", 0, 1), ("*", 3, 4), ("9", 4, 5), ("x", 5, 6)] := by decide +kernel

end VulkanGen
