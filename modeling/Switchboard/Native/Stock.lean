import Switchboard.Native.Table

/-!
# The stock of native functions

`isEven`, `isContain`, `count` and `get` look their keys up in the request;
`isEven` and `plus` also stand ready for values.
-/

namespace Switchboard.Native

/-- Whether an integer of sixty-four bits is even. -/
def isEven (v : Json) : Except Fault Json :=
  match v.int?.filter Decimal.isInt64 with
  | some n => .ok (.bool (n % 2 == 0))
  | none => .error ⟨"isEven: " ++ v.compact ++ " is not an integer"⟩

/-- Whether a text has another inside it. -/
def occursIn (part : List Char) : List Char → Bool
  | [] => part.isEmpty
  | c :: rest => part.isPrefixOf (c :: rest) || occursIn part rest

/-- Whether a container holds a value: an array an item, an object a key, a
text another text, and `null` nothing.  Other values are no containers. -/
def contains? (container element : Json) : Option Bool :=
  match container with
  | .null => some false
  | .arr items => some (items.any fun item => item.same element)
  | .obj fields =>
    some (match element with
      | .str key => (Json.Fields.get? fields key).isSome
      | _ => false)
  | .str text =>
    some (match element with
      | .str part => occursIn part.toList text.toList
      | _ => false)
  | _ => none

/-- Whether what the first key means holds what the second key means. -/
def isContain (request : Request) : Except Fault Json := do
  let element ← request.value 1
  let container ← request.value 0
  match contains? container element with
  | some b => return .bool b
  | none =>
    let key ← request.key 0
    throw ⟨"isContain: `" ++ key ++ "` resolved to " ++ container.compact ++
      ", which is not a container"⟩

/-- How much a value holds: the items of an array, the fields of an object, the
characters of a text, nothing in `null`, and one otherwise. -/
def countOf : Json → Nat
  | .arr items => items.length
  | .obj fields => fields.length
  | .str text => text.length
  | .null => 0
  | _ => 1

def asFloat : Json → Float
  | .num (.int n) => Float.ofInt n
  | .num (.float x) => x
  | _ => 0

/-- The sum of two integers, if both and their sum have sixty-four bits. -/
def exactSum? (left right : Json) : Option Int :=
  match left.int?.filter Decimal.isInt64, right.int?.filter Decimal.isInt64 with
  | some a, some b => (some (a + b)).filter Decimal.isInt64
  | _, _ => none

/-- The sum of two numbers: exact for integers of sixty-four bits whose sum is
one too, and otherwise in binary64. -/
def plus (left right : Json) : Except Fault Json :=
  match exactSum? left right with
  | some sum => .ok (.int sum)
  | none =>
    let sum := asFloat left + asFloat right
    if sum.isFinite then .ok (.num (.float sum))
    else .error ⟨"plus: " ++ left.compact ++ " + " ++ right.compact ++ " is not a finite number"⟩

/-- The functions that every service has to offer.  They remember nothing. -/
def stock {ν : Type} : Table ν :=
  ⟨[.lazy "isEven" 1 (stateless fun request => do isEven (← request.value 0)),
    .lazy "isContain" 2 (stateless isContain),
    .lazy "count" 1 (stateless fun request => return .nat (countOf (← request.value 0))),
    .lazy "get" 1 (stateless fun request => request.value 0),
    .eager "isEven" [.number] (stateless fun args => isEven (args.headD .null)),
    .eager "plus" [.number, .number]
      (stateless fun args => plus (args.getD 0 .null) (args.getD 1 .null))]⟩

end Switchboard.Native
