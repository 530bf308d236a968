import ScriptLexer.Text.Basic

set_option autoImplicit false

/-! # Operators

The four arithmetic operators and the four compound assignments made of them. -/

namespace ScriptLexer

/-- An operator of the language. -/
inductive Operator where
  /-- Addition. -/
  | add
  /-- Subtraction. -/
  | sub
  /-- Multiplication. -/
  | mul
  /-- Division. -/
  | div
  /-- Addition to a variable. -/
  | addAssign
  /-- Subtraction from a variable. -/
  | subAssign
  /-- Multiplication of a variable. -/
  | mulAssign
  /-- Division of a variable. -/
  | divAssign
deriving DecidableEq, Repr

namespace Operator

/-- All operators. -/
def all : List Operator :=
  [.add, .sub, .mul, .div, .addAssign, .subAssign, .mulAssign, .divAssign]

/-- How an operator is written in a program. -/
def symbol : Operator → Text
  | .add => ['+']
  | .sub => ['-']
  | .mul => ['*']
  | .div => ['/']
  | .addAssign => ['+', '=']
  | .subAssign => ['-', '=']
  | .mulAssign => ['*', '=']
  | .divAssign => ['/', '=']

/-- What an operator is called. -/
def name : Operator → Text
  | .add => "ADD".toList
  | .sub => "SUB".toList
  | .mul => "MUL".toList
  | .div => "DIV".toList
  | .addAssign => "ADD_ASSIGN".toList
  | .subAssign => "SUB_ASSIGN".toList
  | .mulAssign => "MUL_ASSIGN".toList
  | .divAssign => "DIV_ASSIGN".toList

/-- The operator is a compound assignment, which has two characters. -/
def isAssignment (op : Operator) : Bool := op.symbol.length == 2

/-- The operator that is written as the text. -/
def ofSymbol? (text : Text) : Option Operator := all.find? (·.symbol == text)

end Operator

end ScriptLexer
