import VulkanGen.Document

/-!
# TOML: growing tables

A document is read line by line into a tree that remembers how each table came
about, because that decides what may still be added to it:

* a table that a header or an inline value defined is *explicit* and is never
  defined again;
* a table that only stands on the way to others is *implicit*;
* a table that a dotted key made is implicit and *dotted*: dotted keys may add
  to it, headers may not define it.

Each operation gives nothing where the document breaks these rules.

* `Entries.lookup_set`  a value is found where it was added
-/

namespace VulkanGen.Toml

/-- A node of a document that is being read. -/
inductive Branch where
  /-- A finished value. -/
  | value (doc : Document)
  | table (implicit dotted : Bool) (entries : List (String × Branch))
  /-- Tables that came one by one under a doubled header. -/
  | tables (items : List (List (String × Branch)))
  deriving Inhabited

/-- The entries of a table, by key. -/
abbrev Entries := List (String × Branch)

/-- The entries with another node at a key, which is added if it is new. -/
def Entries.set (entries : Entries) (key : String) (node : Branch) : Entries :=
  match entries with
  | [] => [(key, node)]
  | (k, old) :: rest =>
    if k == key then (key, node) :: rest else (k, old) :: Entries.set rest key node

/-- Adds a value under a dotted key: below the tables `path`, at `key`. -/
def Entries.add (entries : Entries) (path : List String) (key : String) (doc : Document) :
    Option Entries :=
  match path with
  | [] =>
    if (entries.lookup key).isSome then none else some (entries.set key (.value doc))
  | first :: path =>
    match entries.lookup first with
    | none => (Entries.add [] path key doc).map fun sub => entries.set first (.table true true sub)
    | some (.table implicit dotted sub) =>
      if !implicit || (path.isEmpty && !dotted) then none
      else (Entries.add sub path key doc).map fun sub =>
        entries.set first (.table implicit dotted sub)
    | some (.tables items) =>
      if path.isEmpty then none
      else do
        let last ← items.getLast?
        let last ← Entries.add last path key doc
        return entries.set first (.tables (items.dropLast ++ [last]))
    | some (.value _) => none

/-- Changes the entries of the table that a header's `path` leads to; tables that
are missing on the way are made implicitly. -/
def Entries.change (entries : Entries) (path : List String) (f : Entries → Option Entries) :
    Option Entries :=
  match path with
  | [] => f entries
  | first :: path =>
    match entries.lookup first with
    | none =>
      (Entries.change [] path f).map fun sub => entries.set first (.table true false sub)
    | some (.table implicit dotted sub) =>
      (Entries.change sub path f).map fun sub => entries.set first (.table implicit dotted sub)
    | some (.tables items) => do
      let last ← items.getLast?
      let last ← Entries.change last path f
      return entries.set first (.tables (items.dropLast ++ [last]))
    | some (.value _) => none

/-- What a header's path leads to: nothing where a value is in the way, and
otherwise the node there, if there is one. -/
def Entries.find? (entries : Entries) (path : List String) (key : String) :
    Option (Option Branch) :=
  match path with
  | [] => some (entries.lookup key)
  | first :: path =>
    match entries.lookup first with
    | none => some none
    | some (.table _ _ sub) => Entries.find? sub path key
    | some (.tables items) => items.getLast?.bind fun last => Entries.find? last path key
    | some (.value _) => none

/-- The table under the header that was read last. -/
structure Section where
  /-- The tables above it. -/
  path : List String
  /-- Its own key; the table of the lines in front of all headers has none. -/
  key : Option String
  /-- Whether its header is doubled. -/
  doubled : Bool
  entries : Entries

/-- The section of the lines in front of all headers. -/
def Section.first : Section := ⟨[], none, false, []⟩

/-- The root table once a section is complete. -/
def Section.finish (s : Section) (root : Entries) : Option Entries :=
  match s.key with
  | none => some s.entries
  | some key =>
    root.change s.path fun parent =>
      match parent.lookup key, s.doubled with
      | none, true => some (parent.set key (.tables [s.entries]))
      | some (.tables items), true => some (parent.set key (.tables (items ++ [s.entries])))
      | none, false => some (parent.set key (.table false false s.entries))
      | some (.table true _ _), false => some (parent.set key (.table false false s.entries))
      | _, _ => none

/-- The section that a header opens below `root`. -/
def Section.open? (root : Entries) (path : List String) (key : String) (doubled : Bool) :
    Option Section := do
  match ← root.find? path key, doubled with
  | none, _ => return ⟨path, some key, doubled, []⟩
  | some (.tables _), true => return ⟨path, some key, true, []⟩
  | some (.table true false entries), false => return ⟨path, some key, false, entries⟩
  | _, _ => none

mutual

/-- A node as a document. -/
def Branch.document : Branch → Document
  | .value doc => doc
  | .table _ _ entries => .table (documents entries)
  | .tables items => .list (tableDocuments items)

/-- The entries of a table as documents. -/
def documents : List (String × Branch) → List (String × Document)
  | [] => []
  | (key, node) :: rest => (key, node.document) :: documents rest

/-- A list of tables as documents. -/
def tableDocuments : List (List (String × Branch)) → List Document
  | [] => []
  | entries :: rest => .table (documents entries) :: tableDocuments rest

end

/-- A value is found where it was added. -/
theorem Entries.lookup_set (entries : Entries) (key : String) (node : Branch) :
    (entries.set key node).lookup key = some node := by
  induction entries with
  | nil => simp [Entries.set]
  | cons e rest ih =>
    obtain ⟨k, old⟩ := e
    simp only [Entries.set]
    split
    · simp
    · next h =>
      have hb : (key == k) = false := by
        simp only [beq_iff_eq, beq_eq_false_iff_ne, ne_eq] at h ⊢
        exact fun hk => h hk.symm
      simp only [List.lookup_cons, hb, ih]

end VulkanGen.Toml
