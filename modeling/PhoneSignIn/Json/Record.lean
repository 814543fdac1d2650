import PhoneSignIn.Json.Reader

/-!
Records as JSON. A record with named fields is read from an object, whose other members do not matter, or from an array
of its fields in their order (`Value.fields?`); what an absent field means is each field's own rule (`required`,
`orElse`).
-/
namespace PhoneSignIn.Json

class Form (α : Type) where
  toJson : α → Value
  ofJson? : Value → Option α

export Form (toJson ofJson?)

def write [Form α] (a : α) : String := (toJson a).render

def read? [Form α] (text : String) : Option α := do ofJson? (← Value.parse? text)

/-! ## Fields of a record -/

/-- The member with a key: absent, present, or no answer when the key is repeated. -/
def member? (key : String) (members : List (Literal × Value)) : Option (Option Value) :=
  match members.filter (·.1 == some key) with
  | [] => some none
  | [m] => some (some m.2)
  | _ => none

/-- The fields of a record with these keys, in the order of the keys. An object must have texts for keys and may repeat
    only keys of no field; an array may stop early but not have more items than there are fields. -/
def Value.fields? (keys : List String) : Value → Option (List (Option Value))
  | .object members =>
    if members.all (·.1.isSome) then keys.mapM (member? · members) else none
  | .array items =>
    if items.length ≤ keys.length then
      some (items.map some ++ List.replicate (keys.length - items.length) none)
    else none
  | _ => none

def required [Form α] : Option Value → Option α
  | none => none
  | some v => ofJson? v

def orElse [Form α] (default : α) : Option Value → Option α
  | none => some default
  | some v => ofJson? v

/-! ## Simple forms -/

/-- The number a numeral spells as a whole number; a negative zero spells none. -/
def Numeral.int? (n : Numeral) : Option Int :=
  if n.rest ≠ "" ∨ (n.negative ∧ n.whole = 0) then none
  else some (if n.negative then -(n.whole : Int) else n.whole)

def Value.intWithin? (least greatest : Int) : Value → Option Int
  | .number n => n.int?.filter fun z => least ≤ z ∧ z ≤ greatest
  | _ => none

instance : Form Bool where
  toJson b := .bool b
  ofJson?
    | .bool b => some b
    | _ => none

instance : Form String where
  toJson s := .text s
  ofJson?
    | .string s => s
    | _ => none

instance : Form Int64 where
  toJson n := .int n.toInt
  ofJson? v := (v.intWithin? Int64.minValue.toInt Int64.maxValue.toInt).map Int64.ofInt

instance : Form Int32 where
  toJson n := .int n.toInt
  ofJson? v := (v.intWithin? Int32.minValue.toInt Int32.maxValue.toInt).map Int32.ofInt

/-- Something that may be missing is written as `null` then. -/
instance [Form α] : Form (Option α) where
  toJson := Value.ofOption toJson
  ofJson?
    | .null => some none
    | v => (ofJson? v).map some

instance [Form α] : Form (List α) where
  toJson l := .array (l.map toJson)
  ofJson?
    | .array items => items.mapM ofJson?
    | _ => none

end PhoneSignIn.Json
