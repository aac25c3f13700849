import VulkanGen.Declaration.Malformation
import VulkanGen.Declaration.Span
import VulkanGen.Prototype
import VulkanGen.Text.Digits

/-!
# Reading declarations

A declaration is `VKAPI_ATTR type VKAPI_CALL name ( parameters ) ;`, where the
parameters are none at all, the single word `void`, or a comma-separated list of
`type name` and `type name [ extent ]`, and a type is a sequence of identifiers
and stars.  Each reader takes the tokens that are left and gives back the rest.

The first occurrence of `VKAPI_CALL` ends the return type, and the last word of
a parameter is its name.

* `length_parameter`  reading a parameter never lengthens the rest
* `Prototype.ofSpan`  the whole reader, from a span to a prototype or a cause
-/

namespace VulkanGen

namespace Declaration

/-- A reader of a part of a declaration. -/
abbrev Reader (α : Type) := List Token → Except Malformation (α × List Token)

/-- The characters of a type: words are separated by one space, stars follow
what is in front of them directly. -/
def typeText (tokens : List Token) : List Char :=
  tokens.foldl
    (fun text token =>
      if token.kind == .star then text ++ ['*']
      else if text.isEmpty then token.text.toList
      else text ++ ' ' :: token.text.toList)
    []

/-- A type as the header spells it, white space aside. -/
def renderType (tokens : List Token) : String :=
  .ofList (typeText tokens)

/-- Reads a marker. -/
def marker (word : String) : Reader Unit
  | [] => .error (.missingMarker word none)
  | token :: rest =>
    if token.isWord word then .ok ((), rest) else .error (.missingMarker word (some token.text))

/-- Reads one token of a kind. -/
def expect (kind : Token.Kind) : Reader Token
  | [] => .error (.missing kind none)
  | token :: rest =>
    if token.kind == kind then .ok (token, rest) else .error (.missing kind (some token))

/-- Reads the words up to the second marker. -/
def returnType : Reader String := fun tokens =>
  let inType := fun (t : Token) => t.isTypeWord && !t.isWord callMarker
  let words := tokens.takeWhile inType
  match tokens.dropWhile inType with
  | [] => if words.isEmpty then .error .noReturnType else .ok (renderType words, [])
  | next :: rest =>
    if !next.isTypeWord then .error (.strayInReturnType next.text)
    else if words.isEmpty then .error .noReturnType
    else .ok (renderType words, next :: rest)

/-- Reads the array extent of the parameter `name` behind its opening bracket. -/
def extent (name : String) : Reader Extent := fun tokens => do
  let (size, rest) ← expect .integer tokens
  match Extent.ofNat? (Text.decimal size.text.toList) with
  | none => .error (.invalidExtent size.text name)
  | some extent =>
    let (_, rest) ← expect .rightBracket rest
    return (extent, rest)

/-- The name and the type that the words of a parameter spell. -/
def nameAndType (ordinal : Nat) (words : List Token) : Except Malformation (String × String) :=
  match words.getLast? with
  | none => .error (.emptyParameter ordinal)
  | some last =>
    if last.kind != .identifier then .error (.unnamedParameter ordinal)
    else if words.dropLast.isEmpty then .error (.untypedParameter ordinal last.text)
    else .ok (last.text, renderType words.dropLast)

/-- Reads the parameter at a place of the list, counted from 1. -/
def parameter (ordinal : Nat) : Reader Parameter := fun tokens => do
  let (name, type) ← nameAndType ordinal (tokens.takeWhile Token.isTypeWord)
  match tokens.dropWhile Token.isTypeWord with
  | [] => return (⟨name, type, none⟩, [])
  | next :: rest =>
    if next.kind == .leftBracket then
      let (extent, rest) ← extent name rest
      return (⟨name, type, some extent⟩, rest)
    else return (⟨name, type, none⟩, next :: rest)

theorem length_expect {kind : Token.Kind} {tokens rest : List Token} {token : Token}
    (h : expect kind tokens = .ok (token, rest)) : rest.length < tokens.length := by
  cases tokens with
  | nil => exact nomatch h
  | cons t ts =>
    simp only [expect] at h
    split at h
    · cases h
      simp
    · exact nomatch h

theorem length_extent {name : String} {tokens rest : List Token} {e : Extent}
    (h : extent name tokens = .ok (e, rest)) : rest.length ≤ tokens.length := by
  simp only [extent, bind, Except.bind] at h
  split at h
  · exact nomatch h
  next r hr =>
    obtain ⟨size, rest₁⟩ := r
    have h₁ := length_expect hr
    dsimp only at h
    split at h
    · exact nomatch h
    · split at h
      · exact nomatch h
      next r₂ hr₂ =>
        obtain ⟨close, rest₂⟩ := r₂
        have h₂ := length_expect hr₂
        simp only [pure, Except.pure, Except.ok.injEq, Prod.mk.injEq] at h
        obtain ⟨_, rfl⟩ := h
        omega

/-- Reading a parameter never lengthens the rest. -/
theorem length_parameter {ordinal : Nat} {tokens rest : List Token} {p : Parameter}
    (h : parameter ordinal tokens = .ok (p, rest)) : rest.length ≤ tokens.length := by
  have hd := Text.length_dropWhile_le Token.isTypeWord tokens
  simp only [parameter, bind, Except.bind] at h
  split at h
  · exact nomatch h
  · split at h
    next hrest =>
      simp only [pure, Except.pure, Except.ok.injEq, Prod.mk.injEq] at h
      obtain ⟨_, rfl⟩ := h
      simp
    next next rest₁ hrest =>
      rw [hrest] at hd
      simp only [List.length_cons] at hd
      split at h
      · split at h
        · exact nomatch h
        next r hr =>
          obtain ⟨e, rest₂⟩ := r
          have := length_extent hr
          simp only [pure, Except.pure, Except.ok.injEq, Prod.mk.injEq] at h
          obtain ⟨_, rfl⟩ := h
          omega
      · simp only [pure, Except.pure, Except.ok.injEq, Prod.mk.injEq] at h
        obtain ⟨_, rfl⟩ := h
        simpa using hd

/-- Reads comma-separated parameters, the first of them at place `ordinal`. -/
def parametersFrom (ordinal : Nat) (tokens : List Token) :
    Except Malformation (List Parameter × List Token) :=
  match h : parameter ordinal tokens with
  | .error e => .error e
  | .ok (p, []) => .ok ([p], [])
  | .ok (p, next :: rest) =>
    if next.kind == .comma then
      (parametersFrom (ordinal + 1) rest).map fun (ps, rest) => (p :: ps, rest)
    else .ok ([p], next :: rest)
termination_by tokens.length
decreasing_by
  have := length_parameter h
  simp only [List.length_cons] at this
  omega

/-- Whether the parameters are the single word `void`. -/
def loneVoid : List Token → Bool
  | word :: close :: _ => word.text == "void" && close.kind == .rightParen
  | _ => false

/-- Reads the parameters between the parentheses. -/
def parameters : Reader ParameterList
  | [] => (parametersFrom 1 []).map fun (ps, rest) => (⟨ps⟩, rest)
  | next :: rest =>
    if next.kind == .rightParen then .ok (.empty, next :: rest)
    else if loneVoid (next :: rest) then .ok (.empty, rest)
    else (parametersFrom 1 (next :: rest)).map fun (ps, rest) => (⟨ps⟩, rest)

/-- Reads a whole declaration that starts on a line. -/
def declaration (line : Nat) (tokens : List Token) : Except Malformation Prototype := do
  let (_, rest) ← marker attributeMarker tokens
  let (type, rest) ← returnType rest
  let (_, rest) ← marker callMarker rest
  let (name, rest) ← expect .identifier rest
  let (_, rest) ← expect .leftParen rest
  let (parameters, rest) ← parameters rest
  let (_, rest) ← expect .rightParen rest
  let (_, rest) ← expect .semicolon rest
  match rest with
  | [] => return ⟨name.text, type, parameters, line⟩
  | extra :: _ => .error (.trailing extra.text)

end Declaration

/-- The prototype that a span declares. -/
def Prototype.ofSpan (span : Span) : Except Malformation Prototype :=
  if span.text.toList.contains '(' then
    match Token.tokenize span.text with
    | .error e => .error (.lexical e)
    | .ok tokens => Declaration.declaration span.line tokens
  else .error .noParenthesis

end VulkanGen
