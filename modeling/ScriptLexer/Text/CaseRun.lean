import ScriptLexer.Text.Basic

set_option autoImplicit false

/-! # Runs of case pairs

Most letters change case by one shift for a whole stretch of an alphabet: either every code
point of the stretch, or every second one where the two cases alternate. A run holds such a
stretch, and a table of runs is a map on characters. -/

namespace ScriptLexer

/-- The code points `first`, `first + stride`, … up to `last`, which all move by the shift
that takes `first` to `image`. -/
structure CaseRun where
  /-- The lowest code point of the run. -/
  first : Nat
  /-- The highest code point of the run. -/
  last : Nat
  /-- The distance between two neighbours of the run. -/
  stride : Nat
  /-- What `first` becomes. -/
  image : Nat
deriving DecidableEq, Repr

namespace CaseRun

/-- The code point belongs to the run. -/
def holds (run : CaseRun) (code : Nat) : Bool :=
  decide (run.first ≤ code) && decide (code ≤ run.last) &&
    (code - run.first) % run.stride == 0

/-- What a code point of the run becomes. -/
def apply (run : CaseRun) (code : Nat) : Nat := run.image + (code - run.first)

/-- What a character becomes under a table of runs, if one of them holds it. -/
def lookup (runs : List CaseRun) (c : Char) : Option Char :=
  (runs.find? (·.holds c.toNat)).map fun run => Char.ofNat (run.apply c.toNat)

end CaseRun

end ScriptLexer
