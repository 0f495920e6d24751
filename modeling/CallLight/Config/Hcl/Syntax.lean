import CallLight.Config.Hcl.Value

/-!
# Expressions of HCL

The tree of an expression and of a file.
-/

namespace CallLight.Hcl

/-- Operators between two operands. -/
inductive Operator where
  | or | and
  | equal | notEqual
  | greater | greaterEqual | less | lessEqual
  | add | subtract
  | multiply | divide | remainder
deriving DecidableEq, Repr

mutual

/-- An expression. -/
inductive Expr where
  | literal (value : Value)
  | variable (name : String)
  /-- The element at hand, inside of a splat. -/
  | item
  | paren (inner : Expr)
  | member (source : Expr) (name : String)
  | index (source key : Expr)
  /-- `each` for every element of `source`. -/
  | splat (source each : Expr)
  | negate (operand : Expr)
  | not (operand : Expr)
  | binary (operator : Operator) (left right : Expr)
  | conditional (condition onTrue onFalse : Expr)
  /-- An expression that has a meaning only where functions or references are allowed. -/
  | unresolvable
  | tuple (items : List Expr)
  | object (entries : List Entry)
  /-- A tuple of `body` for every element that fulfils the condition. -/
  | forTuple (key : Option String) (value : String) (source body condition : Expr)
  /-- An object with an entry for every element that fulfils the condition; `grouped` collects the
  values under one key. -/
  | forObject (key : Option String) (value : String) (source entryKey body condition : Expr)
      (grouped : Bool)
  | template (parts : List Expr)
  /-- The texts of a tuple, one after the other. -/
  | join (source : Expr)

/-- An entry of an object. -/
inductive Entry where
  | mk (key value : Expr)

end

namespace Expr

/-- A fixed key in brackets. -/
def isFixedKey : Expr → Bool
  | .literal _ => true
  | .template [.literal _] => true
  | _ => false

/-- A name with steps behind it that are all fixed. -/
def isPath : Expr → Bool
  | .variable _ => true
  | .member source _ => source.isPath
  | .index source key => source.isPath && key.isFixedKey
  | _ => false

/-- The key of an object entry. A lone name stands for itself, also if it is a keyword. Names with
steps behind them could be meant either way and stand for nothing. -/
def asKey : Expr → Expr
  | .variable name => .literal (.ofString name)
  | .literal (.bool b) => .literal (.string (if b then "true" else "false"))
  | .literal (.null _) => .literal (.string "null")
  | e => if e.isPath then .unresolvable else e

end Expr

/-- What stands in a file: its attributes in order, and whether it has any blocks. -/
structure Body where
  attributes : List (String × Expr)
  hasBlocks : Bool

end CallLight.Hcl
