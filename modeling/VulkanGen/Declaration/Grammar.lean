import VulkanGen.Declaration.Parser

/-!
# The grammar of declarations

A form is a declaration as the grammar takes it apart; its lexemes are the tokens
that it stands for, without their places.  A form says how a declaration is
spelled where the prototype does not: an empty parameter list may be written
`void`, and an array extent may have leading zeros.

* `DeclarationForm.lexemes`    the tokens of a form
* `DeclarationForm.InGrammar`  which forms the grammar has
* `DeclarationForm.Spelled`    which forms can be written down
* `DeclarationForm.prototype`  what a form declares
-/

namespace VulkanGen

/-- A token without its place in the text. -/
structure Lexeme where
  kind : Token.Kind
  text : String
  deriving DecidableEq, Repr

/-- A token without its place in the text. -/
def Token.lexeme (token : Token) : Lexeme :=
  ⟨token.kind, token.text⟩

namespace Lexeme

/-- The lexeme of an identifier. -/
def word (text : String) : Lexeme :=
  ⟨.identifier, text⟩

/-- The lexeme of an integer. -/
def number (digits : String) : Lexeme :=
  ⟨.integer, digits⟩

/-- The lexeme of a punctuation character. -/
def mark (kind : Token.Kind) : Lexeme :=
  ⟨kind, .ofList kind.mark?.toList⟩

/-- Whether a lexeme is made of letters and digits, so that it has to be kept
apart from others of that sort. -/
def isWord (l : Lexeme) : Bool :=
  l.kind == .identifier || l.kind == .integer

end Lexeme

/-- Whether a text is one identifier. -/
def isIdentifier (text : String) : Bool :=
  match text.toList with
  | [] => false
  | c :: cs => Token.isWordStart c && cs.all Token.isWordPart

/-- Whether a text is one integer. -/
def isNumeral (text : String) : Bool :=
  !text.toList.isEmpty && text.toList.all Char.isDigit

/-- A part of a type. -/
inductive TypeWord where
  | word (text : String)
  | star
  deriving DecidableEq, Repr

namespace TypeWord

/-- The lexeme of a part of a type. -/
def lexeme : TypeWord → Lexeme
  | word text => .word text
  | star => .mark .star

/-- Whether a part of a type can be written down. -/
def spelled : TypeWord → Bool
  | word text => isIdentifier text
  | star => true

/-- A part of a type behind another one: a word is kept apart by a space, a star
is not. -/
def behind : TypeWord → List Char
  | word text => ' ' :: text.toList
  | star => ['*']

/-- The text of a type. -/
def render : List TypeWord → String
  | [] => ""
  | word text :: rest => .ofList (text.toList ++ rest.flatMap behind)
  | star :: rest => .ofList ('*' :: rest.flatMap behind)

end TypeWord

/-- A parameter as the grammar takes it apart.  The extent is kept as it is spelled. -/
structure ParameterForm where
  type : List TypeWord
  name : String
  extent : Option String
  deriving DecidableEq, Repr

namespace ParameterForm

/-- The lexemes of a parameter. -/
def lexemes (p : ParameterForm) : List Lexeme :=
  p.type.map TypeWord.lexeme ++ .word p.name ::
    match p.extent with
    | none => []
    | some digits => [.mark .leftBracket, .number digits, .mark .rightBracket]

/-- The extent that a parameter declares. -/
def size? (p : ParameterForm) : Option Extent :=
  p.extent.bind fun digits => Extent.ofNat? (Text.decimal digits.toList)

/-- Whether the grammar has a parameter: it has a type, and an extent in range if
it has one. -/
def InGrammar (p : ParameterForm) : Prop :=
  p.type ≠ [] ∧ (p.extent.isSome → p.size?.isSome)

/-- Whether a parameter can be written down. -/
def Spelled (p : ParameterForm) : Prop :=
  (∀ w ∈ p.type, w.spelled) ∧ isIdentifier p.name ∧ ∀ digits ∈ p.extent, isNumeral digits

instance (p : ParameterForm) : Decidable p.InGrammar :=
  inferInstanceAs (Decidable (_ ∧ _))

instance (p : ParameterForm) : Decidable p.Spelled :=
  inferInstanceAs (Decidable (_ ∧ _ ∧ _))

/-- What a parameter declares. -/
def parameter (p : ParameterForm) : Parameter :=
  ⟨p.name, TypeWord.render p.type, p.size?⟩

end ParameterForm

/-- What stands between the parentheses. -/
inductive ParametersForm where
  | nothing
  /-- The single word `void`. -/
  | void
  | list (first : ParameterForm) (rest : List ParameterForm)
  deriving DecidableEq, Repr

namespace ParametersForm

/-- The parameters between the parentheses. -/
def toList : ParametersForm → List ParameterForm
  | nothing | void => []
  | list first rest => first :: rest

/-- The lexemes between the parentheses. -/
def lexemes : ParametersForm → List Lexeme
  | nothing => []
  | void => [.word "void"]
  | list first rest => first.lexemes ++ rest.flatMap fun p => .mark .comma :: p.lexemes

end ParametersForm

/-- A declaration as the grammar takes it apart. -/
structure DeclarationForm where
  returnType : List TypeWord
  name : String
  parameters : ParametersForm
  deriving DecidableEq, Repr

namespace DeclarationForm

/-- The lexemes of a declaration. -/
def lexemes (d : DeclarationForm) : List Lexeme :=
  .word attributeMarker :: d.returnType.map TypeWord.lexeme ++
    .word callMarker :: .word d.name :: .mark .leftParen ::
    d.parameters.lexemes ++ [.mark .rightParen, .mark .semicolon]

/-- Whether the grammar has a declaration: it has a return type, which does not
hold the second marker, and the grammar has its parameters. -/
def InGrammar (d : DeclarationForm) : Prop :=
  d.returnType ≠ [] ∧ .word callMarker ∉ d.returnType ∧
    ∀ p ∈ d.parameters.toList, p.InGrammar

/-- Whether a declaration can be written down. -/
def Spelled (d : DeclarationForm) : Prop :=
  (∀ w ∈ d.returnType, w.spelled) ∧ isIdentifier d.name ∧
    ∀ p ∈ d.parameters.toList, p.Spelled

instance (d : DeclarationForm) : Decidable d.InGrammar :=
  inferInstanceAs (Decidable (_ ∧ _ ∧ _))

instance (d : DeclarationForm) : Decidable d.Spelled :=
  inferInstanceAs (Decidable (_ ∧ _ ∧ _))

/-- What a declaration that starts on a line declares. -/
def prototype (d : DeclarationForm) (line : Nat) : Prototype :=
  ⟨d.name, TypeWord.render d.returnType, ⟨d.parameters.toList.map (·.parameter)⟩, line⟩

end DeclarationForm

/-- Whether a prototype is one that some declaration declares. -/
def Prototype.WellFormed (p : Prototype) : Prop :=
  ∃ d : DeclarationForm, d.InGrammar ∧ d.Spelled ∧ d.prototype p.line = p

/-- The declaration of a prototype on one line, with its markers. -/
def Prototype.marked (p : Prototype) : String :=
  s!"{attributeMarker} {p.returnType} {callMarker} {p.name}({p.parameters.render});"

end VulkanGen
