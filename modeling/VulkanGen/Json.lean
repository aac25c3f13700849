/-!
# JSON output

Values are written over several lines with two spaces of indentation.  Empty
lists and records stay on one line.  In strings the double quote, the backslash
and the control characters below the space are escaped, and nothing else.

* `escapeChar_of_plain`  an ordinary character stands for itself
-/

namespace VulkanGen

/-- A value to be written as JSON. -/
inductive Json where
  | text (value : String)
  | number (value : Nat)
  | list (items : List Json)
  | record (fields : List (String × Json))

namespace Json

/-- The lower-case hexadecimal digit of a number below 16. -/
def hexDigit (n : Nat) : Char :=
  Nat.digitChar n

/-- A character as it stands in a string. -/
def escapeChar (c : Char) : List Char :=
  if c == '"' then ['\\', '"']
  else if c == '\\' then ['\\', '\\']
  else if c == '\x08' then ['\\', 'b']
  else if c == '\x0c' then ['\\', 'f']
  else if c == '\n' then ['\\', 'n']
  else if c == '\r' then ['\\', 'r']
  else if c == '\t' then ['\\', 't']
  else if c.toNat < 0x20 then
    ['\\', 'u', '0', '0', hexDigit (c.toNat / 16), hexDigit (c.toNat % 16)]
  else [c]

/-- A text as a JSON string. -/
def quote (s : String) : String :=
  "\"" ++ .ofList (s.toList.flatMap escapeChar) ++ "\""

/-- A line break and the indentation of a depth. -/
def newLine (depth : Nat) : String :=
  "\n" ++ .ofList (List.replicate (2 * depth) ' ')

/-- Items between two brackets, one a line, at a depth. -/
def block (opening closing : String) (depth : Nat) (items : List String) : String :=
  if items.isEmpty then opening ++ closing
  else
    opening ++ newLine (depth + 1) ++ ("," ++ newLine (depth + 1)).intercalate items ++
      newLine depth ++ closing

mutual

/-- A value, written at a depth. -/
def renderAt (depth : Nat) : Json → String
  | text value => quote value
  | number value => toString value
  | list items => block "[" "]" depth (renderItems (depth + 1) items)
  | record fields => block "\x7b" "\x7d" depth (renderFields (depth + 1) fields)

/-- The items of a list, written at a depth. -/
def renderItems (depth : Nat) : List Json → List String
  | [] => []
  | item :: rest => renderAt depth item :: renderItems depth rest

/-- The fields of a record, written at a depth. -/
def renderFields (depth : Nat) : List (String × Json) → List String
  | [] => []
  | (name, value) :: rest =>
    (quote name ++ ": " ++ renderAt depth value) :: renderFields depth rest

end

/-- The text of a value. -/
def render (value : Json) : String :=
  value.renderAt 0

/-- An ordinary character stands for itself. -/
theorem escapeChar_of_plain {c : Char} (h : 0x20 ≤ c.toNat) (hq : c ≠ '"') (hb : c ≠ '\\') :
    escapeChar c = [c] := by
  have hc : ∀ d : Char, d.toNat < 0x20 → (c == d) = false := by
    intro d hd
    simp only [beq_eq_false_iff_ne, ne_eq]
    rintro rfl
    omega
  have hn : ¬ c.toNat < 0x20 := by omega
  simp [escapeChar, hq, hb, hc, hn]

example : (record [("a", list []), ("b", list [number 1])]).render =
    "\x7b\n  \"a\": [],\n  \"b\": [\n    1\n  ]\n\x7d" := by decide

end Json

end VulkanGen
