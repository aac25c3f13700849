import VulkanGen.Toml.Scalar
import VulkanGen.Toml.Tree

/-!
# TOML: documents

A document is a sequence of lines: blank ones, comments, headers `[key]` and
`[[key]]`, and settings `key = value`.  A list may run over several lines and end
in a comma; a table between braces stands on one line and may not.

Values nest, so their reader is given a depth that it must stay below, and it is
bounded by the length of the text: every step takes a character.

* `read`  the document of a text, or the line on which it is malformed
-/

namespace VulkanGen.Toml

/-- The rest of a list behind blanks, line breaks and comments. -/
def skipInList (fuel : Nat) (cs : List Char) : List Char :=
  match fuel with
  | 0 => cs
  | fuel + 1 =>
    let rest := skipComment (skipSpace cs)
    match lineBreak? rest with
    | some rest => skipInList fuel rest
    | none => if (skipSpace cs).head? == some '#' then cs else rest

/-- Reads one character. -/
def symbol (c : Char) : Reader Unit
  | d :: rest => if c == d then .ok ((), rest) else fail (d :: rest)
  | [] => fail []

/-- The table of the settings between braces. -/
def inlineTable (settings : List (List String × Document)) : Option Document := do
  let entries ← settings.foldlM
    (fun (entries : Entries) (path, doc) =>
      match path.getLast? with
      | none => none
      | some key => entries.add path.dropLast key doc)
    []
  return .table (documents entries)

mutual

/-- Reads a value that is nested less than `depth` deep, in at most `fuel` steps. -/
def value (fuel depth : Nat) (cs : List Char) : Except Nat (Document × List Char) :=
  match fuel with
  | 0 => fail cs
  | fuel + 1 =>
    match cs with
    | '"' :: _ | '\'' :: _ => (string cs).map fun (text, rest) => (.text (.ofList text), rest)
    | '[' :: rest =>
      match depth with
      | 0 => fail cs
      | depth + 1 => (items fuel depth rest).map fun (docs, rest) => (.list docs, rest)
    | '\x7b' :: rest =>
      match depth with
      | 0 => fail cs
      | depth + 1 => do
        let (list, rest) ← settings fuel depth rest
        match inlineTable list with
        | some doc => return (doc, rest)
        | none => fail rest
    | _ => scalar cs

/-- Reads the items of a list behind its opening bracket. -/
def items (fuel depth : Nat) (cs : List Char) : Except Nat (List Document × List Char) :=
  match fuel with
  | 0 => fail cs
  | fuel + 1 =>
    match skipInList cs.length cs with
    | ']' :: rest => .ok ([], rest)
    | rest => do
      let (doc, rest) ← value fuel depth rest
      match skipInList rest.length rest with
      | ']' :: rest => return ([doc], rest)
      | ',' :: rest =>
        let (docs, rest) ← items fuel depth rest
        return (doc :: docs, rest)
      | rest => fail rest

/-- Reads the settings between braces behind the opening one. -/
def settings (fuel depth : Nat) (cs : List Char) :
    Except Nat (List (List String × Document) × List Char) :=
  match fuel with
  | 0 => fail cs
  | fuel + 1 =>
    match skipSpace cs with
    | '\x7d' :: rest => .ok ([], rest)
    | rest => moreSettings fuel depth rest

/-- Reads at least one setting, and what follows it up to the closing brace. -/
def moreSettings (fuel depth : Nat) (cs : List Char) :
    Except Nat (List (List String × Document) × List Char) :=
  match fuel with
  | 0 => fail cs
  | fuel + 1 => do
    let (path, rest) ← key cs
    let (_, rest) ← symbol '=' rest
    let (doc, rest) ← value fuel depth (skipSpace rest)
    match skipSpace rest with
    | '\x7d' :: rest => return ([(path, doc)], rest)
    | ',' :: rest =>
      let (others, rest) ← moreSettings fuel depth rest
      return ((path, doc) :: others, rest)
    | rest => fail rest

end

/-- A document that is being read: the root table without the last section, and
that section. -/
structure Draft where
  root : Entries
  current : Section

/-- Reads a setting into the last section. -/
def setting (draft : Draft) : Reader Draft := fun cs => do
  let (path, rest) ← key cs
  let (_, rest) ← symbol '=' rest
  let rest := skipSpace rest
  let (doc, rest) ← value (2 * rest.length + 2) (depthLimit - 1) rest
  let (_, rest) ← lineEnd rest
  match path.getLast?.bind fun last => draft.current.entries.add path.dropLast last doc with
  | none => fail cs
  | some entries => return ({ draft with current := { draft.current with entries } }, rest)

/-- Reads a header behind its opening brackets. -/
def header (doubled : Bool) (draft : Draft) : Reader Draft := fun cs => do
  let (path, rest) ← key cs
  let (_, rest) ← symbol ']' rest
  let (_, rest) ← if doubled then symbol ']' rest else .ok ((), rest)
  let (_, rest) ← lineEnd rest
  let opened := do
    let root ← draft.current.finish draft.root
    let last ← path.getLast?
    let opened ← Section.open? root path.dropLast last doubled
    return (⟨root, opened⟩ : Draft)
  match opened with
  | none => fail cs
  | some draft => return (draft, rest)

/-- Reads lines until the text ends. -/
def linesOf (fuel : Nat) (draft : Draft) (cs : List Char) : Except Nat Draft :=
  match fuel with
  | 0 => fail cs
  | fuel + 1 =>
    match skipSpace cs with
    | [] => .ok draft
    | '[' :: '[' :: rest => do
      let (draft, rest) ← header true draft rest
      linesOf fuel draft rest
    | '[' :: rest => do
      let (draft, rest) ← header false draft rest
      linesOf fuel draft rest
    | '#' :: rest => do
      let (_, rest) ← lineEnd ('#' :: rest)
      linesOf fuel draft rest
    | rest =>
      match lineBreak? rest with
      | some rest => linesOf fuel draft rest
      | none => do
        let (draft, rest) ← setting draft rest
        linesOf fuel draft rest

/-- A text without the byte order mark that it may start with. -/
def dropMark : List Char → List Char
  | '\uFEFF' :: rest => rest
  | cs => cs

/-- The document of a text; the error is the line on which it is malformed. -/
def read (text : String) : Except Nat Document :=
  let cs := dropMark text.toList
  let parsed := do
    let draft ← linesOf (cs.length + 1) ⟨[], .first⟩ cs
    match draft.current.finish draft.root with
    | none => fail []
    | some root => return Document.table (documents root)
  parsed.mapError fun left => (cs.take (cs.length - left)).count '\n' + 1

end VulkanGen.Toml
