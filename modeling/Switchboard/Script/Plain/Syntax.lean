import Switchboard.Script.Engine

/-!
# Plain scripts

A script defines functions.  Everything in the body of a function is an
expression with a value, control included, and a body is a list of
expressions of which the last gives the value.

## Main definitions

* `Expr`: expressions.
* `Definition`: a function with its parameters and body.
-/

namespace Switchboard.Script.Plain

/-- The operators that work on two values. -/
inductive Operator where
  | add
  | sub
  | mul
  | div
  | rem
  | eq
  | ne
  | lt
  | le
  | gt
  | ge
deriving DecidableEq

def Operator.sign : Operator → String
  | add => "+"
  | sub => "-"
  | mul => "*"
  | div => "/"
  | rem => "%"
  | eq => "=="
  | ne => "!="
  | lt => "<"
  | le => "<="
  | gt => ">"
  | ge => ">="

inductive Expr where
  | unit
  | bool (value : Bool)
  | int (value : Int)
  | float (value : Float)
  | char (value : Char)
  | text (value : String)
  | var (name : String)
  | array (items : List Expr)
  | map (fields : List (String × Expr))
  | not (operand : Expr)
  | neg (operand : Expr)
  | binary (operator : Operator) (left right : Expr)
  /-- Both hold; the right one is not looked at if the left one does not. -/
  | both (left right : Expr)
  /-- Either holds; the right one is not looked at if the left one does. -/
  | either (left right : Expr)
  | index (target position : Expr)
  | field (target : Expr) (name : String)
  /-- A function by name. -/
  | call (name : String) (args : List Expr)
  /-- A function by name, applied to a receiver. -/
  | method (receiver : Expr) (name : String) (args : List Expr)
  | block (body : List Expr)
  | cond (test : Expr) (yes no : List Expr)
  /-- The body again and again, while a test holds. -/
  | loop (test : Expr) (body : List Expr)
  /-- The body for every item of an array. -/
  | each (name : String) (items : Expr) (body : List Expr)
  /-- A new variable, or a constant. -/
  | declare (name : String) (constant : Bool) (value : Expr)
  /-- A new value for a variable or a part of it, made from the old one by an
  operator if there is one. -/
  | assign (place : Expr) (operator : Option Operator) (value : Expr)
  /-- Leave the loop around with a value. -/
  | leave (value : Expr)
  /-- Go on with the next turn of the loop around. -/
  | next
  /-- Leave the function with a value. -/
  | give (value : Expr)
  /-- Fail with a value. -/
  | throw (value : Expr)

instance : Inhabited Expr := ⟨.unit⟩

/-- A function with its parameters and its body. -/
structure Definition where
  name : String
  params : List String
  body : List Expr

/-- The function that a definition is of. -/
def Definition.callee (d : Definition) : Callee :=
  ⟨d.name, d.params.length⟩

end Switchboard.Script.Plain
