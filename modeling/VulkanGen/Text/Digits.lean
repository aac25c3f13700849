/-!
# Numbers as digits

Decimal numbers are read digit by digit, leading zeros included, and a column of
numbers is set flush right.

* `ofDigits_append`  reading goes on from the value of the digits read so far
-/

namespace VulkanGen.Text

/-- The value of one decimal digit. -/
def digitValue (c : Char) : Nat :=
  c.toNat - '0'.toNat

/-- The value of a text of digits in base `base`, going on from `value`. -/
def ofDigits (base : Nat) (digit : Char → Nat) (value : Nat) (cs : List Char) : Nat :=
  cs.foldl (fun n c => base * n + digit c) value

/-- The value of a text of decimal digits. -/
def decimal (cs : List Char) : Nat :=
  ofDigits 10 digitValue 0 cs

theorem ofDigits_append (base : Nat) (digit : Char → Nat) (value : Nat) (as bs : List Char) :
    ofDigits base digit value (as ++ bs) =
      ofDigits base digit (ofDigits base digit value as) bs := by
  simp [ofDigits]

/-- A text with spaces in front of it up to a width. -/
def flushRight (width : Nat) (text : String) : String :=
  .ofList (List.replicate (width - text.length) ' ') ++ text

example : decimal "0042".toList = 42 := by decide
example : flushRight 5 "42" = "   42" := by decide

end VulkanGen.Text
