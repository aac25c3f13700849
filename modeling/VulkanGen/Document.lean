/-!
# Documents

Settings are read from a document: a tree of texts, numbers, truth values,
points in time, lists and tables.  Reading one is done by shape: each reader
names the one shape that it takes and refuses all others.

A record is read from a table by the names of its fields; fields that are not
asked for are ignored.  A list stands for a record as well, its items being the
fields in order, and so does a point in time, which has no fields at all.  What
becomes of a list with more items than the record has fields is up to whoever
reads the document.

* `fields?_table`         a table's fields are its entries
* `fields?_list`          a list's fields are its items, in the order of the names
* `field_of_lookup_none`  a field that is not there has its default
-/

namespace VulkanGen

/-- A tree of settings.  Numbers with a fraction and points in time are kept as
they are spelled: no setting holds one. -/
inductive Document where
  | nothing
  | text (value : String)
  | integer (value : Int)
  | real (spelling : String)
  | boolean (value : Bool)
  | moment (spelling : String)
  | list (items : List Document)
  | table (entries : List (String × Document))
  deriving Inhabited

/-- What becomes of the items of a list that no field of the record is left for. -/
inductive Surplus where
  | refused
  | ignored
  deriving DecidableEq, Repr

namespace Document

/-- Reads a text. -/
def text? : Document → Option String
  | text value => some value
  | _ => none

/-- Reads a truth value. -/
def boolean? : Document → Option Bool
  | boolean value => some value
  | _ => none

/-- Reads a number from 0 to 2^64 - 1. -/
def natural? : Document → Option Nat
  | integer value => if 0 ≤ value ∧ value ≤ 0xFFFFFFFFFFFFFFFF then some value.toNat else none
  | _ => none

/-- Reads a list of texts. -/
def texts? : Document → Option (List String)
  | list items => items.mapM text?
  | _ => none

/-- Reads a record whose fields have these names, in this order. -/
def fields? (surplus : Surplus) (names : List String) :
    Document → Option (List (String × Document))
  | table entries => some entries
  | list items =>
    if surplus = .refused ∧ names.length < items.length then none else some (names.zip items)
  | moment _ => some []
  | _ => none

/-- Reads one field of a record; a missing one has its default. -/
def field {α : Type} (fields : List (String × Document)) (name : String)
    (read : Document → Option α) (default : α) : Option α :=
  match fields.lookup name with
  | none => some default
  | some value => read value

@[simp] theorem fields?_table (surplus : Surplus) (names : List String)
    (entries : List (String × Document)) :
    (table entries).fields? surplus names = some entries := rfl

/-- A list of no more items than there are names is always a record. -/
theorem fields?_list (surplus : Surplus) {names : List String} {items : List Document}
    (h : items.length ≤ names.length) :
    (list items).fields? surplus names = some (names.zip items) := by
  simp [fields?, Nat.not_lt.2 h]

theorem field_of_lookup_none {α : Type} {fields : List (String × Document)} {name : String}
    (read : Document → Option α) (default : α) (h : fields.lookup name = none) :
    field fields name read default = some default := by
  simp only [field, h]

end Document

end VulkanGen
