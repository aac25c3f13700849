import VulkanGen.Token

/-!
# Malformed declarations

Each way in which a declaration can miss the grammar is a cause of its own, and
`message` is the one place that words them.
-/

namespace VulkanGen

/-- Why a declaration does not fit the grammar. -/
inductive Malformation where
  /-- The text has no opening parenthesis at all. -/
  | noParenthesis
  /-- The text does not split into tokens. -/
  | lexical (error : LexError)
  /-- Another token, or the end, stands where a marker has to. -/
  | missingMarker (marker : String) (found : Option String)
  /-- A token that no type holds stands in the return type. -/
  | strayInReturnType (text : String)
  /-- No word stands between the two markers. -/
  | noReturnType
  /-- Another token, or the end, stands where a token of this kind has to. -/
  | missing (kind : Token.Kind) (found : Option Token)
  /-- A token follows the final semicolon. -/
  | trailing (text : String)
  /-- The parameter at this place has no words. -/
  | emptyParameter (ordinal : Nat)
  /-- The last word of the parameter is not a name. -/
  | unnamedParameter (ordinal : Nat)
  /-- The parameter has one word only. -/
  | untypedParameter (ordinal : Nat) (word : String)
  /-- The array extent is zero or too large. -/
  | invalidExtent (digits : String) (name : String)
  deriving DecidableEq

/-- The text of a cause. -/
def Malformation.message : Malformation → String
  | noParenthesis => "missing '('"
  | lexical error => error.message
  | missingMarker marker (some text) => s!"expected `{marker}` but found '{text}'"
  | missingMarker marker none => s!"expected `{marker}` but reached end of declaration"
  | strayInReturnType text => s!"unexpected '{text}' in return type"
  | noReturnType => "missing return type"
  | missing kind (some token) =>
    s!"expected {kind.describe} but found '{token.text}' at offset {token.start}"
  | missing kind none => s!"expected {kind.describe} but reached end of declaration"
  | trailing text => s!"unexpected '{text}' after ';'"
  | emptyParameter ordinal => s!"parameter {ordinal} is empty"
  | unnamedParameter ordinal => s!"parameter {ordinal} has no name"
  | untypedParameter ordinal word => s!"parameter {ordinal} ('{word}') has no type"
  | invalidExtent digits name => s!"invalid array size '{digits}' for '{name}'"

end VulkanGen
