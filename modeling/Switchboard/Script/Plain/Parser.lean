import Switchboard.Script.Plain.Syntax
import Switchboard.Script.Plain.Token

/-!
# Reading scripts

A script is a sequence of function definitions and statements.  Statements are
read, so that a script with a fault in one is refused, and left out: only the
definitions count.

Statements are separated by semicolons, which may be left out behind one that
ends in a block of its own.  The value of a block is that of its last
statement, with or without a semicolon behind it.

## Main definitions

* `definitions? source`: the functions that a script defines.
-/

namespace Switchboard.Script.Plain

/-- Words that name nothing. -/
def keywords : List String :=
  ["true", "false", "let", "const", "is", "if", "else", "switch", "do", "while", "until", "loop",
   "for", "in", "fn", "private", "continue", "break", "return", "throw", "try", "catch", "import",
   "export", "as", "global", "var", "static", "shared", "goto", "exit", "match", "case", "public",
   "protected", "new", "use", "with", "module", "package", "super", "thread", "spawn", "go", "sync",
   "async", "await", "yield", "default", "void", "null", "nil", "print", "debug", "type_of", "eval",
   "Fn", "call", "curry", "this", "is_def_fn", "is_def_var", "is_shared"]

/-- Words that are no names of variables but can be those of functions. -/
def functionWords : List String :=
  ["print", "debug", "type_of", "eval", "Fn", "call", "curry", "is_def_fn", "is_def_var",
   "is_shared"]

/-- Whether a word can name a variable. -/
def isVariableName (name : String) : Bool :=
  !keywords.contains name

/-- Whether a word can name a function that is called. -/
def isFunctionName (name : String) : Bool :=
  !keywords.contains name || functionWords.contains name

/-- How tightly an operator binds, and the expression it makes. -/
def binaryOf? (sign : String) : Option (Nat × (Expr → Expr → Expr)) :=
  match sign with
  | "||" => some (30, .either)
  | "&&" => some (60, .both)
  | "==" => some (90, .binary .eq)
  | "!=" => some (90, .binary .ne)
  | "<" => some (130, .binary .lt)
  | "<=" => some (130, .binary .le)
  | ">" => some (130, .binary .gt)
  | ">=" => some (130, .binary .ge)
  | "+" => some (150, .binary .add)
  | "-" => some (150, .binary .sub)
  | "*" => some (180, .binary .mul)
  | "/" => some (180, .binary .div)
  | "%" => some (180, .binary .rem)
  | _ => none

/-- The operator in front of the equals sign of an assignment, if the sign is
that of an assignment. -/
def assignmentOf? (sign : String) : Option (Option Operator) :=
  match sign with
  | "=" => some none
  | "+=" => some (some .add)
  | "-=" => some (some .sub)
  | "*=" => some (some .mul)
  | "/=" => some (some .div)
  | "%=" => some (some .rem)
  | _ => none

/-- Whether an expression is a variable or a part of one. -/
def Expr.isPlace : Expr → Bool
  | .var _ => true
  | .index target _ => target.isPlace
  | .field target _ => target.isPlace
  | _ => false

/-- Whether no text occurs twice in a list. -/
def areDistinct : List String → Bool
  | [] => true
  | name :: rest => !rest.contains name && areDistinct rest

/-- A statement, if it is more than a semicolon, and whether it needs none
behind it. -/
structure Statement where
  expr : Option Expr
  closed : Bool

mutual

/-- An expression of operators that bind more tightly than `floor`. -/
def expr? : Nat → Bool → Nat → List Token → Option (Expr × List Token)
  | 0, _, _, _ => none
  | fuel + 1, inLoop, floor, ts =>
    match operand? fuel inLoop ts with
    | some (left, rest) => binaryRest? fuel inLoop floor left rest
    | none => none

/-- The operators and operands behind a left operand. -/
def binaryRest? : Nat → Bool → Nat → Expr → List Token → Option (Expr × List Token)
  | 0, _, _, _, _ => none
  | fuel + 1, inLoop, floor, left, .sign sign :: rest =>
    match binaryOf? sign with
    | some (power, build) =>
      if floor < power then
        match expr? fuel inLoop power rest with
        | some (right, rest) => binaryRest? fuel inLoop floor (build left right) rest
        | none => none
      else some (left, .sign sign :: rest)
    | none => some (left, .sign sign :: rest)
  | _ + 1, _, _, left, ts => some (left, ts)

/-- An operand with the signs in front of it and the parts behind it. -/
def operand? : Nat → Bool → List Token → Option (Expr × List Token)
  | 0, _, _ => none
  | fuel + 1, inLoop, .sign "-" :: rest =>
    (operand? fuel inLoop rest).map fun (e, rest) => (.neg e, rest)
  | fuel + 1, inLoop, .sign "!" :: rest =>
    (operand? fuel inLoop rest).map fun (e, rest) => (.not e, rest)
  | fuel + 1, inLoop, .sign "+" :: rest => operand? fuel inLoop rest
  | fuel + 1, inLoop, ts =>
    match primary? fuel inLoop ts with
    | some (e, rest) => parts? fuel inLoop e rest
    | none => none

/-- The indices, fields and methods behind an expression. -/
def parts? : Nat → Bool → Expr → List Token → Option (Expr × List Token)
  | 0, _, _, _ => none
  | fuel + 1, inLoop, e, .sign "[" :: rest =>
    match expr? fuel inLoop 0 rest with
    | some (position, .sign "]" :: rest) => parts? fuel inLoop (.index e position) rest
    | _ => none
  | fuel + 1, inLoop, e, .sign "." :: .word name :: .sign "(" :: rest =>
    if isFunctionName name then
      match items? fuel inLoop ")" rest with
      | some (args, rest) => parts? fuel inLoop (.method e name args) rest
      | none => none
    else none
  | fuel + 1, inLoop, e, .sign "." :: .word name :: rest =>
    if isVariableName name then parts? fuel inLoop (.field e name) rest else none
  | _ + 1, _, e, ts => some (e, ts)

/-- A literal, a variable, a call, or an expression with brackets around it. -/
def primary? : Nat → Bool → List Token → Option (Expr × List Token)
  | 0, _, _ => none
  | _ + 1, _, .int n :: rest => some (.int n, rest)
  | _ + 1, _, .float x :: rest => some (.float x, rest)
  | _ + 1, _, .text s :: rest => some (.text s, rest)
  | _ + 1, _, .char c :: rest => some (.char c, rest)
  | _ + 1, _, .sign "(" :: .sign ")" :: rest => some (.unit, rest)
  | fuel + 1, inLoop, .sign "(" :: rest =>
    match expr? fuel inLoop 0 rest with
    | some (e, .sign ")" :: rest) => some (e, rest)
    | _ => none
  | fuel + 1, inLoop, .sign "[" :: rest =>
    (items? fuel inLoop "]" rest).map fun (items, rest) => (.array items, rest)
  | fuel + 1, inLoop, .sign "#\x7b" :: rest =>
    match fields? fuel inLoop rest with
    | some (fields, rest) =>
      if areDistinct (fields.map Prod.fst) then some (.map fields, rest) else none
    | none => none
  | fuel + 1, inLoop, .sign "\x7b" :: rest =>
    (block? fuel inLoop rest).map fun (body, rest) => (.block body, rest)
  | _ + 1, _, .word "true" :: rest => some (.bool true, rest)
  | _ + 1, _, .word "false" :: rest => some (.bool false, rest)
  | _ + 1, _, .word "this" :: rest => some (.var "this", rest)
  | fuel + 1, inLoop, .word "if" :: rest => cond? fuel inLoop rest
  | fuel + 1, inLoop, .word "while" :: rest =>
    match expr? fuel inLoop 0 rest with
    | some (test, .sign "\x7b" :: rest) =>
      (block? fuel true rest).map fun (body, rest) => (.loop test body, rest)
    | _ => none
  | fuel + 1, _, .word "loop" :: .sign "\x7b" :: rest =>
    (block? fuel true rest).map fun (body, rest) => (.loop (.bool true) body, rest)
  | fuel + 1, inLoop, .word "for" :: .word name :: .word "in" :: rest =>
    if isVariableName name then
      match expr? fuel inLoop 0 rest with
      | some (items, .sign "\x7b" :: rest) =>
        (block? fuel true rest).map fun (body, rest) => (.each name items body, rest)
      | _ => none
    else none
  | fuel + 1, inLoop, .word name :: .sign "(" :: rest =>
    if isFunctionName name then
      (items? fuel inLoop ")" rest).map fun (args, rest) => (.call name args, rest)
    else none
  | _ + 1, _, .word name :: rest =>
    if isVariableName name then some (.var name, rest) else none
  | _ + 1, _, _ => none

/-- Expressions with commas between them up to a closing sign; a comma may
stand behind the last. -/
def items? : Nat → Bool → String → List Token → Option (List Expr × List Token)
  | 0, _, _, _ => none
  | fuel + 1, inLoop, close, ts =>
    match ts with
    | .sign sign :: rest =>
      if sign = close then some ([], rest) else itemsRest? fuel inLoop close ts
    | ts => itemsRest? fuel inLoop close ts

/-- The same where at least one expression stands. -/
def itemsRest? : Nat → Bool → String → List Token → Option (List Expr × List Token)
  | 0, _, _, _ => none
  | fuel + 1, inLoop, close, ts =>
    match expr? fuel inLoop 0 ts with
    | some (e, .sign "," :: rest) =>
      (items? fuel inLoop close rest).map fun (items, rest) => (e :: items, rest)
    | some (e, .sign sign :: rest) => if sign = close then some ([e], rest) else none
    | _ => none

/-- The fields of a map up to its closing brace; a comma may stand behind the
last. -/
def fields? : Nat → Bool → List Token → Option (List (String × Expr) × List Token)
  | 0, _, _ => none
  | _ + 1, _, .sign "\x7d" :: rest => some ([], rest)
  | fuel + 1, inLoop, .word name :: .sign ":" :: rest =>
    if isVariableName name then field? fuel inLoop name rest else none
  | fuel + 1, inLoop, .text name :: .sign ":" :: rest => field? fuel inLoop name rest
  | _ + 1, _, _ => none

/-- The value of a field of a map, and the fields behind it. -/
def field? : Nat → Bool → String → List Token → Option (List (String × Expr) × List Token)
  | 0, _, _, _ => none
  | fuel + 1, inLoop, name, ts =>
    match expr? fuel inLoop 0 ts with
    | some (e, .sign "," :: rest) =>
      (fields? fuel inLoop rest).map fun (fields, rest) => ((name, e) :: fields, rest)
    | some (e, .sign "\x7d" :: rest) => some ([(name, e)], rest)
    | _ => none

/-- A condition with its blocks, from behind the word that opens it. -/
def cond? : Nat → Bool → List Token → Option (Expr × List Token)
  | 0, _, _ => none
  | fuel + 1, inLoop, ts =>
    match expr? fuel inLoop 0 ts with
    | some (test, .sign "\x7b" :: rest) =>
      match block? fuel inLoop rest with
      | some (yes, .word "else" :: .word "if" :: rest) =>
        (cond? fuel inLoop rest).map fun (no, rest) => (.cond test yes [no], rest)
      | some (yes, .word "else" :: .sign "\x7b" :: rest) =>
        (block? fuel inLoop rest).map fun (no, rest) => (.cond test yes no, rest)
      | some (_, .word "else" :: _) => none
      | some (yes, rest) => some (.cond test yes [], rest)
      | none => none
    | _ => none

/-- The statements of a block up to its closing brace. -/
def block? : Nat → Bool → List Token → Option (List Expr × List Token)
  | 0, _, _ => none
  | _ + 1, _, .sign "\x7d" :: rest => some ([], rest)
  | fuel + 1, inLoop, ts =>
    match statement? fuel inLoop ts with
    | none => none
    | some (⟨none, _⟩, rest) => block? fuel inLoop rest
    | some (⟨some e, closed⟩, rest) =>
      match rest with
      | .sign "\x7d" :: after => some ([e], after)
      | .sign ";" :: after =>
        (block? fuel inLoop after).map fun (body, rest) => (e :: body, rest)
      | rest =>
        if closed then (block? fuel inLoop rest).map fun (body, rest) => (e :: body, rest)
        else none

def statement? : Nat → Bool → List Token → Option (Statement × List Token)
  | 0, _, _ => none
  | _ + 1, _, .sign ";" :: rest => some (⟨none, true⟩, rest)
  | fuel + 1, inLoop, .word "let" :: .word name :: rest =>
    (declaration? fuel inLoop name false rest).map fun (e, rest) => (⟨some e, false⟩, rest)
  | fuel + 1, inLoop, .word "const" :: .word name :: rest =>
    (declaration? fuel inLoop name true rest).map fun (e, rest) => (⟨some e, false⟩, rest)
  | fuel + 1, inLoop, .word "return" :: rest =>
    (result? fuel inLoop rest).map fun (e, rest) => (⟨some (.give e), false⟩, rest)
  | fuel + 1, inLoop, .word "throw" :: rest =>
    (result? fuel inLoop rest).map fun (e, rest) => (⟨some (.throw e), false⟩, rest)
  | fuel + 1, inLoop, .word "break" :: rest =>
    if inLoop then
      (result? fuel inLoop rest).map fun (e, rest) => (⟨some (.leave e), false⟩, rest)
    else none
  | _ + 1, inLoop, .word "continue" :: rest =>
    if inLoop then some (⟨some .next, false⟩, rest) else none
  | fuel + 1, inLoop, .word word :: rest =>
    if ["if", "while", "loop", "for"].contains word then
      (primary? fuel inLoop (.word word :: rest)).map fun (e, rest) => (⟨some e, true⟩, rest)
    else plain? fuel inLoop (.word word :: rest)
  | fuel + 1, inLoop, .sign "\x7b" :: rest =>
    (block? fuel inLoop rest).map fun (body, rest) => (⟨some (.block body), true⟩, rest)
  | fuel + 1, inLoop, ts => plain? fuel inLoop ts

/-- An expression as a statement, or an assignment. -/
def plain? : Nat → Bool → List Token → Option (Statement × List Token)
  | 0, _, _ => none
  | fuel + 1, inLoop, ts =>
    match expr? fuel inLoop 0 ts with
    | some (place, .sign sign :: rest) =>
      match assignmentOf? sign with
      | none => some (⟨some place, false⟩, .sign sign :: rest)
      | some operator =>
        if place.isPlace then
          (expr? fuel inLoop 0 rest).map fun (e, rest) =>
            (⟨some (.assign place operator e), false⟩, rest)
        else none
    | some (e, rest) => some (⟨some e, false⟩, rest)
    | none => none

/-- A declaration, from behind the name of its variable. -/
def declaration? : Nat → Bool → String → Bool → List Token → Option (Expr × List Token)
  | 0, _, _, _, _ => none
  | fuel + 1, inLoop, name, constant, ts =>
    if isVariableName name then
      match ts with
      | .sign "=" :: rest =>
        (expr? fuel inLoop 0 rest).map fun (e, rest) => (.declare name constant e, rest)
      | rest => some (.declare name constant .unit, rest)
    else none

/-- The value that a statement hands on, if there is one before its end. -/
def result? : Nat → Bool → List Token → Option (Expr × List Token)
  | 0, _, _ => none
  | _ + 1, _, [] => some (.unit, [])
  | _ + 1, _, .sign ";" :: rest => some (.unit, .sign ";" :: rest)
  | _ + 1, _, .sign "\x7d" :: rest => some (.unit, .sign "\x7d" :: rest)
  | fuel + 1, inLoop, ts => expr? fuel inLoop 0 ts

end

/-- The parameters of a function up to the closing parenthesis; a comma may
stand behind the last. -/
def params? : List Token → Option (List String × List Token)
  | .sign ")" :: rest => some ([], rest)
  | .word name :: .sign ")" :: rest =>
    if isVariableName name then some ([name], rest) else none
  | .word name :: .sign "," :: rest =>
    if isVariableName name then
      (params? rest).map fun (names, rest) => (name :: names, rest)
    else none
  | _ => none

/-- The function that is defined behind the word that opens a definition. -/
def definition? (fuel : Nat) : List Token → Option (Definition × List Token)
  | .word name :: .sign "(" :: rest =>
    match params? rest with
    | some (params, .sign "\x7b" :: rest) =>
      if isVariableName name && areDistinct params then
        (block? fuel false rest).map fun (body, rest) => (⟨name, params, body⟩, rest)
      else none
    | _ => none
  | _ => none

/-- The functions that the tokens of a script define. -/
def topLevel? : Nat → List Token → Option (List Definition)
  | 0, _ => none
  | _, [] => some []
  | fuel + 1, .word "fn" :: rest =>
    match definition? fuel rest with
    | some (d, rest) => (topLevel? fuel rest).map (d :: ·)
    | none => none
  | fuel + 1, ts =>
    match statement? fuel false ts with
    | none => none
    | some (_, []) => some []
    | some (_, .sign ";" :: rest) => topLevel? fuel rest
    | some (statement, rest) => if statement.closed then topLevel? fuel rest else none

/-- Whether no function is defined twice with one number of parameters. -/
def areDistinctFunctions : List Definition → Bool
  | [] => true
  | d :: rest => !rest.any (·.callee == d.callee) && areDistinctFunctions rest

/-- The functions that a script defines, if it has no fault. -/
def definitions? (source : String) : Option (List Definition) :=
  match Token.scan? source with
  | none => none
  | some ts => (topLevel? (8 * ts.length + 8) ts).filter areDistinctFunctions

end Switchboard.Script.Plain
