import Switchboard.Json.Basic
import Switchboard.Json.Printer
import Switchboard.Script.Plain.Syntax
import Switchboard.Text.Quoted

/-!
# Values of scripts

Scripts compute with integers of sixty-four bits, fractions, characters, texts,
arrays and maps, all of them values: a copy never changes with what it was
taken from.

## Main definitions

* `Value`: the values.
* `Fault`, `Fault.message`: what can go wrong in a script.
* `Value.ofJson`, `Value.toJson?`: the passage from and to JSON.
* `Operator.apply`: an operator on two values.
* `Value.get`, `Value.set`: a part of a value.
* `builtin?`, `reflection?`: the functions that need no definition.
-/

namespace Switchboard.Script.Plain

inductive Value where
  | unit
  | bool (value : Bool)
  | int (value : Int)
  | float (value : Float)
  | char (value : Char)
  | text (value : String)
  | array (items : List Value)
  | map (fields : List (String × Value))
  /-- A function by its name, not called. -/
  | function (name : String)

instance : Inhabited Value := ⟨.unit⟩

/-- What can go wrong in a script. -/
inductive Fault where
  /-- The function to call is not defined. -/
  | noEntry (name : String)
  /-- A function or operator is not defined for values of these types. -/
  | noFunction (name : String) (types : List String)
  | noVariable (name : String)
  | constant (name : String)
  | overflow (operation : String) (left : Int) (sign : String) (right : Int)
  | negation (operand : Int)
  | divisionByZero (left right : Int)
  | remainder (left right : Int)
  | arrayBounds (position : Int) (length : Nat)
  | textBounds (position : Int) (length : Nat)
  | wrongType (actual expected : String)
  | noField (name type : String)
  | noIndex (type position : String)
  | notIterable
  /-- What is assigned to is no variable and no part of one. -/
  | noPlace
  /-- The script failed by itself, with a value in words. -/
  | thrown (text : String)
  | tooManyOperations
  | tooManyCalls
  /-- The evaluation was cut off. -/
  | unfinished
deriving DecidableEq

def intText (n : Int) : String :=
  String.ofList (Decimal.intChars n)

/-- How the bounds of a sequence are cited. -/
def boundsText (what items item : String) (position : Int) (length : Nat) : String :=
  what ++ " index " ++ intText position ++ " out of bounds: " ++
    (if length = 0 then items ++ " is empty"
     else "only " ++ intText length ++ " " ++ (if length = 1 then item else item ++ "s") ++
       " in " ++ items)

def Fault.message : Fault → String
  | noEntry name => "Function not found: " ++ name
  | noFunction name types =>
    "Function not found: " ++ name ++ " (" ++ ", ".intercalate types ++ ")"
  | noVariable name => "Variable not found: " ++ name
  | constant name => "Cannot modify constant: " ++ name
  | overflow operation left sign right =>
    operation ++ " overflow: " ++ intText left ++ " " ++ sign ++ " " ++ intText right
  | negation n => "Negation overflow: -" ++ intText n
  | divisionByZero left right =>
    "Division by zero: " ++ intText left ++ " / " ++ intText right
  | remainder left right =>
    "Modulo division by zero or overflow: " ++ intText left ++ " % " ++ intText right
  | arrayBounds position length => boundsText "Array" "array" "element" position length
  | textBounds position length => boundsText "String" "string" "character" position length
  | wrongType actual expected =>
    "Data type incorrect: " ++ actual ++ " (expecting " ++ expected ++ ")"
  | noField name type =>
    "Unknown property '" ++ name ++ "' - a getter is not registered for type '" ++ type ++ "'"
  | noIndex type position => "Indexer unavailable: " ++ type ++ " [" ++ position ++ "]"
  | notIterable => "For loop expects iterable type"
  | noPlace => "Cannot assign to this expression"
  | thrown text => if text.isEmpty then "Runtime error" else "Runtime error: " ++ text
  | tooManyOperations => "Too many operations"
  | tooManyCalls => "Stack overflow"
  | unfinished => "Too many operations"

/-! ## Types and texts -/

def Value.typeName : Value → String
  | unit => "()"
  | bool _ => "bool"
  | int _ => "i64"
  | float _ => "f64"
  | char _ => "char"
  | text _ => "string"
  | array _ => "array"
  | map _ => "map"
  | function _ => "Fn"

/-- The name of the type of an argument in the signature of a function that is
not defined. -/
def Value.argumentType : Value → String
  | text _ => "&str | ImmutableString | String"
  | v => v.typeName

/-- Fractions are written with a point below `10^13` and from `10^-13`. -/
def plainFloat : Decimal.Layout :=
  ⟨some (-13), some 12, false⟩

/-- Fractions inside arrays and maps are written with a point below `10^16` and
from `10^-4`. -/
def nestedFloat : Decimal.Layout :=
  ⟨some (-4), some 15, false⟩

/-- The text of a fraction. -/
def floatText (layout : Decimal.Layout) (x : Float) : String :=
  if x.isNaN then "NaN"
  else if x.isInf then (if x < 0 then "-inf" else "inf")
  else String.ofList (layout.chars x)

mutual

/-- The text of a value inside an array or a map, where texts are quoted. -/
def Value.cited : Value → String
  | .unit => "()"
  | .bool b => if b then "true" else "false"
  | .int n => intText n
  | .float x => floatText nestedFloat x
  | .char c => "'" ++ String.ofList (if c = '\'' then ['\\', '\''] else Text.citeChar c) ++ "'"
  | .text s => Text.cite s
  | .array items => "[" ++ ", ".intercalate (citedItems items) ++ "]"
  | .map fields => "#\x7b" ++ ", ".intercalate (citedFields fields) ++ "\x7d"
  | .function name => "Fn(" ++ name ++ ")"

/-- The texts of the items of an array. -/
def citedItems : List Value → List String
  | [] => []
  | v :: rest => v.cited :: citedItems rest

/-- The texts of the fields of a map. -/
def citedFields : List (String × Value) → List String
  | [] => []
  | (key, v) :: rest => (Text.cite key ++ ": " ++ v.cited) :: citedFields rest

end

/-- The text that a value adds to another text. -/
def Value.plain : Value → String
  | unit => ""
  | float x => if x == 0 then "0.0" else floatText plainFloat x
  | char c => String.singleton c
  | text s => s
  | v => v.cited

/-! ## JSON -/

mutual

/-- The value of a JSON value.  An integer beyond sixty-four bits with a sign
becomes a fraction. -/
def Value.ofJson : Json → Value
  | .null => .unit
  | .bool b => .bool b
  | .num (.int n) => if Decimal.isInt64 n then .int n else .float (Float.ofInt n)
  | .num (.float x) => .float x
  | .str s => .text s
  | .arr items => .array (ofItems items)
  | .obj fields => .map (ofFields fields)

/-- The values of the items of an array. -/
def ofItems : List Json → List Value
  | [] => []
  | v :: rest => Value.ofJson v :: ofItems rest

/-- The values of the fields of an object. -/
def ofFields : List (String × Json) → List (String × Value)
  | [] => []
  | (key, v) :: rest => (key, Value.ofJson v) :: ofFields rest

end

mutual

/-- The JSON form of a value; a function has none, and a fraction that is not
finite becomes `null`. -/
def Value.toJson? : Value → Option Json
  | .unit => some .null
  | .bool b => some (.bool b)
  | .int n => some (.int n)
  | .float x => some (if x.isFinite then .num (.float x) else .null)
  | .char c => some (.str (String.singleton c))
  | .text s => some (.str s)
  | .array items => (toItems? items).map .arr
  | .map fields => (toFields? fields).map .obj
  | .function _ => none

/-- The JSON forms of the items of an array. -/
def toItems? : List Value → Option (List Json)
  | [] => some []
  | v :: rest =>
    match v.toJson?, toItems? rest with
    | some v, some rest => some (v :: rest)
    | _, _ => none

/-- The JSON forms of the fields of a map. -/
def toFields? : List (String × Value) → Option (List (String × Json))
  | [] => some []
  | (key, v) :: rest =>
    match v.toJson?, toFields? rest with
    | some v, some rest => some ((key, v) :: rest)
    | _, _ => none

end

/-! ## Operators -/

/-- An integer of sixty-four bits, or a fault. -/
def checked (n : Int) (fault : Fault) : Except Fault Value :=
  if Decimal.isInt64 n then .ok (.int n) else .error fault

/-- The remainder of a fraction, with the sign of the dividend and exact. -/
def floatRemainder (x y : Float) : Float :=
  if !x.isFinite || y.isNaN || y == 0 then 0 / 0
  else if y.isInf then x
  else
    let a := Decimal.Binary.ofFloat x
    let b := Decimal.Binary.ofFloat y
    let unit := min a.exponent b.exponent
    let rest := a.mantissa * Nat.pow 2 (a.exponent - unit).toNat %
      (b.mantissa * Nat.pow 2 (b.exponent - unit).toNat)
    let magnitude := Decimal.Binary.toFloat rest unit
    if Decimal.isNegative x then -magnitude else magnitude

/-- Whether a comparison holds of two things of which it is known whether the
first is less and whether they are equal. -/
def Operator.holds (less equal : Bool) : Operator → Bool
  | eq => equal
  | ne => !equal
  | lt => less
  | le => less || equal
  | gt => !less && !equal
  | ge => !less
  | _ => false

/-- A comparison of fractions, of which none holds for what is no number. -/
def Operator.compareFloats (operator : Operator) (x y : Float) : Bool :=
  match operator with
  | eq => x == y
  | ne => x != y
  | lt => x < y
  | le => x ≤ y
  | gt => y < x
  | ge => y ≤ x
  | _ => false

def Operator.isComparison : Operator → Bool
  | eq | ne | lt | le | gt | ge => true
  | _ => false

def Operator.onInts (operator : Operator) (x y : Int) : Except Fault Value :=
  match operator with
  | add => checked (x + y) (.overflow "Addition" x "+" y)
  | sub => checked (x - y) (.overflow "Subtraction" x "-" y)
  | mul => checked (x * y) (.overflow "Multiplication" x "*" y)
  | div =>
    if y = 0 then .error (.divisionByZero x y)
    else checked (x.tdiv y) (.overflow "Division" x "/" y)
  | rem =>
    if y = 0 ∨ (x = Decimal.int64Min ∧ y = -1) then .error (.remainder x y)
    else .ok (.int (x.tmod y))
  | operator => .ok (.bool (operator.holds (x < y) (x == y)))

def Operator.onFloats (operator : Operator) (x y : Float) : Value :=
  match operator with
  | add => .float (x + y)
  | sub => .float (x - y)
  | mul => .float (x * y)
  | div => .float (x / y)
  | rem => .float (floatRemainder x y)
  | operator => .bool (operator.compareFloats x y)

mutual

/-- Equality of values: numbers by their size, characters and texts by what is
written, all else by type and content. -/
def Value.same : Value → Value → Bool
  | .unit, .unit => true
  | .bool a, .bool b => a == b
  | .int a, .int b => a == b
  | .float a, .float b => a == b
  | .int a, .float b => Float.ofInt a == b
  | .float a, .int b => a == Float.ofInt b
  | .char a, .char b => a == b
  | .text a, .text b => a == b
  | .char a, .text b => String.singleton a == b
  | .text a, .char b => a == String.singleton b
  | .array a, .array b => sameItems a b
  | .map a, .map b => sameFields a b
  | .function a, .function b => a == b
  | _, _ => false

def sameItems : List Value → List Value → Bool
  | [], [] => true
  | a :: as, b :: bs => Value.same a b && sameItems as bs
  | _, _ => false

def sameFields : List (String × Value) → List (String × Value) → Bool
  | [], [] => true
  | (k, a) :: as, (l, b) :: bs => k == l && Value.same a b && sameFields as bs
  | _, _ => false

end

/-- The text of a value that is a text or a character. -/
def Value.text? : Value → Option String
  | .text s => some s
  | .char c => some (String.singleton c)
  | _ => none

/-- A map with the fields of another put into it. -/
def mergeFields (fields others : List (String × Value)) : List (String × Value) :=
  others.foldl (fun merged field => Dict.insertRow field.1 field.2 merged) fields

/-- The sum of two values one of which is no number: texts are joined, with the
text of anything else, arrays too, and maps are merged. -/
def joined? : Value → Value → Option Value
  | .array a, .array b => some (.array (a ++ b))
  | .map a, .map b => some (.map (mergeFields a b))
  | .text a, v => some (.text (a ++ v.plain))
  | v, .text b => some (.text (v.plain ++ b))
  | .char a, .char b => some (.text (String.ofList [a, b]))
  | _, _ => none

/-- An operator on two values.  Values of unlike types differ, and no other
comparison holds of them. -/
def Operator.apply (operator : Operator) (left right : Value) : Except Fault Value :=
  match left, right with
  | .int x, .int y => operator.onInts x y
  | .float x, .float y => .ok (operator.onFloats x y)
  | .int x, .float y => .ok (operator.onFloats (Float.ofInt x) y)
  | .float x, .int y => .ok (operator.onFloats x (Float.ofInt y))
  | left, right =>
    let undefined : Fault :=
      .noFunction operator.sign [left.argumentType, right.argumentType]
    match operator with
    | .add =>
      match joined? left right with
      | some v => .ok v
      | none => .error undefined
    | .eq => .ok (.bool (left.same right))
    | .ne => .ok (.bool (!left.same right))
    | operator =>
      if operator.isComparison then
        match left, right with
        | .bool a, .bool b => .ok (.bool (operator.holds (!a && b) (a == b)))
        | .unit, .unit => .ok (.bool (operator.holds false true))
        | left, right =>
          match left.text?, right.text? with
          | some a, some b => .ok (.bool (operator.holds (a < b) (a == b)))
          | _, _ => .ok (.bool false)
      else .error undefined

/-- The operator of an assignment, which puts a value behind the items of an
array where an array stands. -/
def Operator.update (operator : Operator) (old new : Value) : Except Fault Value :=
  match operator, old, new with
  | .add, .array items, .array others => .ok (.array (items ++ others))
  | .add, .array items, v => .ok (.array (items ++ [v]))
  | operator, old, new => operator.apply old new

/-- A value with its sign changed. -/
def Value.negated : Value → Except Fault Value
  | .int n => checked (-n) (.negation n)
  | .float x => .ok (.float (-x))
  | v => .error (.noFunction "-" [v.argumentType])

/-- The contrary of a truth value. -/
def Value.contrary : Value → Except Fault Value
  | .bool b => .ok (.bool !b)
  | v => .error (.noFunction "!" [v.argumentType])

/-- The truth value that a test yields. -/
def Value.asTest : Value → Except Fault Bool
  | .bool b => .ok b
  | v => .error (.wrongType v.typeName "bool")

/-! ## Parts -/

/-- The way to a part of a value. -/
inductive Part where
  | position (v : Value)
  | field (name : String)

/-- The place that a position means in a sequence, from the end if it is
negative. -/
def placeOf? (length : Nat) (position : Int) : Option Nat :=
  let place := if position < 0 then position + length else position
  if 0 ≤ place ∧ place < length then some place.toNat else none

/-- The number of items, characters or fields of a value. -/
def Value.size? : Value → Option Nat
  | .text s => some s.length
  | .array items => some items.length
  | .map fields => some fields.length
  | _ => none

/-- Why a value has no part at a position of a wrong type: items and characters
are counted by integers and fields named by texts, and other values have no
parts. -/
def Value.noPart (target position : Value) : Fault :=
  match target with
  | .array _ => .wrongType position.typeName "i64"
  | .text _ => .wrongType position.typeName "i64"
  | .map _ => .wrongType position.typeName "string"
  | target => .noIndex target.typeName position.typeName

/-- A part of a value.  A map has every field, the unit value where none was
put. -/
def Value.get : Value → Part → Except Fault Value
  | .map fields, .field name => .ok ((fields.lookup name).getD .unit)
  | .map fields, .position (.text name) => .ok ((fields.lookup name).getD .unit)
  | .array items, .position (.int n) =>
    match (placeOf? items.length n).bind (items[·]?) with
    | some v => .ok v
    | none => .error (.arrayBounds n items.length)
  | .text s, .position (.int n) =>
    match (placeOf? s.length n).bind (s.toList[·]?) with
    | some c => .ok (.char c)
    | none => .error (.textBounds n s.length)
  | .text s, .field "len" => .ok (.int s.length)
  | .array items, .field "len" => .ok (.int items.length)
  | v, .field name => .error (.noField name v.typeName)
  | v, .position position => .error (v.noPart position)

/-- A value with another in place of one of its parts. -/
def Value.set : Value → Part → Value → Except Fault Value
  | .map fields, .field name, v => .ok (.map (Dict.insertRow name v fields))
  | .map fields, .position (.text name), v => .ok (.map (Dict.insertRow name v fields))
  | .array items, .position (.int n), v =>
    match placeOf? items.length n with
    | some place => .ok (.array (items.set place v))
    | none => .error (.arrayBounds n items.length)
  | .text s, .position (.int n), .char c =>
    match placeOf? s.length n with
    | some place => .ok (.text (String.ofList (s.toList.set place c)))
    | none => .error (.textBounds n s.length)
  | target, .field name, _ => .error (.noField name target.typeName)
  | target, .position position, _ => .error (target.noPart position)

/-- The part of a value at the end of a path. -/
def Value.getAt (v : Value) : List Part → Except Fault Value
  | [] => .ok v
  | part :: path =>
    match v.get part with
    | .ok inner => inner.getAt path
    | .error e => .error e

/-- A value with another in place of the part at the end of a path. -/
def Value.setAt (v : Value) (new : Value) : List Part → Except Fault Value
  | [] => .ok new
  | part :: path =>
    match v.get part with
    | .error e => .error e
    | .ok inner =>
      match inner.setAt new path with
      | .error e => .error e
      | .ok inner => v.set part inner

/-! ## Functions that need no definition -/

/-- What a function that needs no definition yields, and what becomes of its
first argument if it changes that. -/
structure Yield where
  result : Value
  changed : Option Value := none

/-- The functions that need no definition, by name and arguments. -/
def builtin? (name : String) (args : List Value) : Option Yield :=
  match name, args with
  | "len", [v] => v.size?.map fun n => { result := .int n }
  | "push", [.array items, v] => some { result := .unit, changed := some (.array (items ++ [v])) }
  | "Fn", [.text s] => some { result := .function s }
  | "is_def_fn", [.text _, .int (.negSucc _)] => some { result := .bool false }
  | _, _ => none

/-- What a function does that is told by its arguments which function to look up. -/
inductive Reflection where
  /-- It tells whether the function is defined. -/
  | isDefined (callee : Callee)
  /-- It calls the function. -/
  | apply (name : String) (args : List Value)

/-- The functions that are told which function to look up, by name and arguments. -/
def reflection? (name : String) (args : List Value) : Option Reflection :=
  match name, args with
  | "is_def_fn", [.text function, .int (.ofNat arity)] => some (.isDefined ⟨function, arity⟩)
  | "call", .function function :: args => some (.apply function args)
  | _, _ => none

end Switchboard.Script.Plain
