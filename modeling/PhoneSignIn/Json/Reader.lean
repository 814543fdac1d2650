import PhoneSignIn.Json.Lexer

/-!
Reading a JSON text. The reader takes one token at a time and keeps the arrays and objects it is inside on a stack, so
nesting has no limit. A text is read when its tokens form one value.
-/
namespace PhoneSignIn.Json

/-- An array or object the reader is inside, without the part it is reading; the items and members that are done come
    latest first. -/
inductive Frame where
  | array (done : List Value)
  | object (done : List (Literal × Value)) (key : Literal)

inductive Reader where
  | value (stack : List Frame)
  /-- A value or the end of an array that has just begun. -/
  | firstItem (stack : List Frame)
  /-- A comma or the end of an array, after an item. -/
  | items (done : List Value) (stack : List Frame)
  /-- A key or the end of an object that has just begun. -/
  | firstKey (stack : List Frame)
  | nextKey (done : List (Literal × Value)) (stack : List Frame)
  | colon (done : List (Literal × Value)) (key : Literal) (stack : List Frame)
  /-- A comma or the end of an object, after a member. -/
  | members (done : List (Literal × Value)) (stack : List Frame)
  | finished (v : Value)

def Reader.complete (v : Value) : List Frame → Reader
  | [] => .finished v
  | .array done :: stack => .items (v :: done) stack
  | .object done key :: stack => .members ((key,v) :: done) stack

def Reader.begin? (stack : List Frame) : Token → Option Reader
  | .null => some (.complete .null stack)
  | .bool b => some (.complete (.bool b) stack)
  | .number n => some (.complete (.number n) stack)
  | .string s => some (.complete (.string s) stack)
  | .openArray => some (.firstItem stack)
  | .openObject => some (.firstKey stack)
  | _ => none

def Reader.step? : Reader → Token → Option Reader
  | .value stack, t => begin? stack t
  | .firstItem stack, .closeArray => some (complete (.array []) stack)
  | .firstItem stack, t => begin? (.array [] :: stack) t
  | .items done stack, .comma => some (.value (.array done :: stack))
  | .items done stack, .closeArray => some (complete (.array done.reverse) stack)
  | .firstKey stack, .closeObject => some (complete (.object []) stack)
  | .firstKey stack, .string key => some (.colon [] key stack)
  | .nextKey done stack, .string key => some (.colon done key stack)
  | .colon done key stack, .colon => some (.value (.object done key :: stack))
  | .members done stack, .comma => some (.nextKey done stack)
  | .members done stack, .closeObject => some (complete (.object done.reverse) stack)
  | _, _ => none

def Reader.run? : Reader → List Token → Option Reader
  | q, [] => some q
  | q, t :: ts => do run? (← q.step? t) ts

def Value.ofTokens? (ts : List Token) : Option Value :=
  match (Reader.value []).run? ts with
  | some (.finished v) => some v
  | _ => none

def Value.parse? (text : String) : Option Value := do Value.ofTokens? (← tokens? text.toList)

end PhoneSignIn.Json
