import ScriptLexer.Text.Basic

set_option autoImplicit false

/-! # Letter classes

The letters of a dialect are written as a class text, read from left to right: a character, a
hyphen and another character are the range from the one to the other; any other character
stands for itself, and so does a hyphen at the very end. No other character has a meaning of
its own. A class is well formed if none of its ranges runs backwards. -/

namespace ScriptLexer

/-- One item of a class text. -/
inductive ClassItem where
  /-- A letter that stands for itself. -/
  | letter (c : Char)
  /-- All letters from the first to the second. -/
  | range (low high : Char)
deriving DecidableEq, Repr

namespace ClassItem

/-- The items of a class text. -/
def ofText : Text → List ClassItem
  | [] => []
  | [c] => [.letter c]
  | [c, '-'] => [.letter c, .letter '-']
  | low :: '-' :: high :: rest => .range low high :: ofText rest
  | c :: rest => .letter c :: ofText rest

/-- How an item is written. -/
def text : ClassItem → Text
  | .letter c => [c]
  | .range low high => [low, '-', high]

/-- The character is one of the letters of the item. -/
def covers : ClassItem → Char → Bool
  | .letter own, c => own == c
  | .range low high, c => decide (low ≤ c) && decide (c ≤ high)

end ClassItem

/-- A range of a class whose second letter comes before its first. -/
structure ReversedRange where
  /-- The index of the range in the class text. -/
  offset : Nat
  /-- Where the range starts. -/
  low : Char
  /-- Where it ends. -/
  high : Char
deriving DecidableEq, Repr

namespace ReversedRange

/-- The first reversed range among items of which the first stands at an index. -/
def firstFrom? (offset : Nat) : List ClassItem → Option ReversedRange
  | [] => none
  | .letter _ :: items => firstFrom? (offset + 1) items
  | .range low high :: items =>
    if high < low then some ⟨offset, low, high⟩ else firstFrom? (offset + 3) items

/-- The first reversed range of a class text. -/
def first? (classText : Text) : Option ReversedRange :=
  firstFrom? 0 (ClassItem.ofText classText)

end ReversedRange

end ScriptLexer
