import GuidelineCompliance.Text.Blank

/-! Code points in hexadecimal digits, and tables of them. A table writes a code point alone, with a
minus for all from one to another, or with a colon for every second one. -/

namespace GuidelineCompliance.Pattern

def hexValue? (c : Char) : Option Nat :=
  if c.isDigit then some (c.toNat - 48)
  else if 'a' ≤ c && c ≤ 'f' then some (c.toNat - 87)
  else if 'A' ≤ c && c ≤ 'F' then some (c.toNat - 55)
  else none

/-- The number that hexadecimal digits write; no digits write none. -/
def readHex (cs : List Char) : Option Nat :=
  if cs.isEmpty then none
  else cs.foldlM (fun n c => (hexValue? c).map (16 * n + ·)) 0

/-- The character of a code point. A surrogate has none. -/
def charOfCode? (n : Nat) : Option Char :=
  if n < 0xD800 ∨ (0xDFFF < n ∧ n < 0x110000) then some (Char.ofNat n) else none

def charOfHex? (cs : List Char) : Option Char := (readHex cs).bind charOfCode?

def codeOf (digits : List Char) : Nat := (readHex digits).getD 0

def readCodes (piece : List Char) : List (Nat × Nat) :=
  match Text.splitOn '-' piece, Text.splitOn ':' piece with
  | [low, high], _ => [(codeOf low, codeOf high)]
  | _, [low, high] =>
    (List.range ((codeOf high - codeOf low) / 2 + 1)).map fun n =>
      (codeOf low + 2 * n, codeOf low + 2 * n)
  | _, _ => [(codeOf piece, codeOf piece)]

def readTable (table : List String) : List (Nat × Nat) :=
  table.flatMap fun line => (Text.splitOn ' ' line.toList).flatMap readCodes

abbrev Rows := List (List String × List String)

def Rows.find? (rows : Rows) (name : String) : Option (List (Nat × Nat)) :=
  (List.find? (·.1.contains name) rows).map fun row => readTable row.2

end GuidelineCompliance.Pattern
