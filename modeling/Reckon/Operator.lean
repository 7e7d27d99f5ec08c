/-!
# Operators

The binary operators, grouped into families and ranked by binding strength,
and the two postfix steps.
-/

namespace Reckon

inductive BinaryOp where
  | add | sub | mul | div | pow
  | bitAnd | bitOr | bitXor | shiftLeft | shiftRight
  | and | or
  | eq | ne | lt | le | gt | ge
  deriving DecidableEq, Repr

inductive OpFamily where
  | arithmetic
  | bitwise
  | logical
  | comparison
  deriving DecidableEq, Repr

namespace BinaryOp

def all : List BinaryOp :=
  [.add, .sub, .mul, .div, .pow, .bitAnd, .bitOr, .bitXor, .shiftLeft, .shiftRight,
    .and, .or, .eq, .ne, .lt, .le, .gt, .ge]

def family : BinaryOp -> OpFamily
  | .add | .sub | .mul | .div | .pow => .arithmetic
  | .bitAnd | .bitOr | .bitXor | .shiftLeft | .shiftRight => .bitwise
  | .and | .or => .logical
  | .eq | .ne | .lt | .le | .gt | .ge => .comparison

/-- Binding strength; a higher number binds tighter. -/
def precedence : BinaryOp -> Nat
  | .or => 1
  | .and => 2
  | .eq | .ne | .lt | .le | .gt | .ge => 3
  | .add | .sub | .bitOr | .bitXor => 4
  | .mul | .div | .bitAnd | .shiftLeft | .shiftRight => 5
  | .pow => 6

def symbol : BinaryOp -> String
  | .add => "+"
  | .sub => "-"
  | .mul => "*"
  | .div => "/"
  | .pow => "**"
  | .bitAnd => "&"
  | .bitOr => "|"
  | .bitXor => "^"
  | .shiftLeft => "<<"
  | .shiftRight => ">>"
  | .and => "and"
  | .or => "or"
  | .eq => "=="
  | .ne => "!="
  | .lt => "<"
  | .le => "<="
  | .gt => ">"
  | .ge => ">="

theorem mem_all (op : BinaryOp) : op ∈ all := by
  cases op <;> decide

theorem symbol_injective {a b : BinaryOp} (h : a.symbol = b.symbol) : a = b := by
  revert h
  cases a <;> cases b <;> decide

end BinaryOp

inductive StepOp where
  | increment
  | decrement
  deriving DecidableEq, Repr

namespace StepOp

def symbol : StepOp -> String
  | .increment => "++"
  | .decrement => "--"

def delta : StepOp -> Int
  | .increment => 1
  | .decrement => -1

end StepOp
end Reckon
