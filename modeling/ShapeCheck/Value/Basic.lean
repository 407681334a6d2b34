import ShapeCheck.Binary64.Basic
import ShapeCheck.Calendar
import ShapeCheck.Keyed
import ShapeCheck.Value.Class

/-!
# Values

The dynamically typed values that checkers look at.  Symbols, arrays, objects, functions, dates and
regular expressions carry an identity and are compared by it; all other values are compared by
content.

Main statements: `sameValue_refl`, and `property_undefined`: nothing can be read from a value
without properties.
-/

namespace ShapeCheck

/-- What tells one symbol, array, object, function, date or regular expression from another. -/
abbrev Identity := Nat

/-- A dynamically typed value. -/
inductive Value where
  | undefined
  | null
  | bool (b : Bool)
  | number (x : Binary64)
  | bigint (n : Int)
  | string (text : String)
  | symbol (id : Identity) (description : Option String)
  | array (id : Identity) (items : List Value)
  /-- An object with its own properties; one without a class is a plain object. -/
  | object (id : Identity) (cls : Option Class) (entries : List (String × Value))
  | function (id : Identity) (name : Option String)
  | date (id : Identity) (instant : Instant)
  | regexp (id : Identity) (source : String)
deriving Inhabited

/-- The index that a key of an array stands for: decimal digits, with at most one plus sign in
front. -/
def arrayIndex? (key : String) : Option Nat :=
  let digits :=
    match key.toList with
    | '+' :: rest => rest
    | chars => chars
  if digits.isEmpty || !digits.all Char.isDigit then none
  else some (digits.foldl (fun n c => 10 * n + (c.toNat - '0'.toNat)) 0)

namespace Value

/-- Whether a value is null or undefined. -/
def isNullish : Value → Bool
  | undefined | null => true
  | _ => false

/-- Whether a condition counts the value as true. -/
def isTruthy : Value → Bool
  | undefined | null => false
  | bool b => b
  | number x => !x.isZero && !x.isNaN
  | bigint n => n != 0
  | string text => !text.isEmpty
  | symbol _ _ | array _ _ | object _ _ _ | function _ _ | date _ _ | regexp _ _ => true

/-- The items of an array. -/
def items? : Value → Option (List Value)
  | array _ items => some items
  | _ => none

/-- The own properties of an object; no other value has any. -/
def entries? : Value → Option (List (String × Value))
  | object _ _ entries => some entries
  | _ => none

/-- The names of the own properties, in order. -/
def ownKeys (v : Value) : List String :=
  match v.entries? with
  | some entries => Keyed.keys entries
  | none => []

/-- The value under a key: an own property of an object or an item of an array. -/
def property? : Value → String → Option Value
  | object _ _ entries, key => Keyed.get? entries key
  | array _ items, key => (arrayIndex? key).bind (items[·]?)
  | _, _ => none

/-- The value under a key, a missing one reading as undefined. -/
def property (v : Value) (key : String) : Value :=
  (v.property? key).getD undefined

/-- The class of an object, or the builtin class of what is an object without being declared as
one. -/
def class? : Value → Option Class
  | object _ cls _ => cls
  | array _ _ => some .array
  | function _ _ => some .function
  | date _ _ => some .date
  | regexp _ _ => some .regexp
  | _ => none

/-- Whether a value is of a kind that has a class. -/
def isClassed : Value → Bool
  | object _ _ _ | array _ _ | function _ _ | date _ _ | regexp _ _ => true
  | _ => false

/-- Whether a value is an instance of a class: its own class derives from it, or it is the builtin
class of all objects. -/
def isInstanceOf (v : Value) (c : Class) : Bool :=
  v.isClassed && ((v.class?.any (·.derivesFrom c)) || c.same .object)

/-- Whether two values cannot be told apart: identity where there is one, content elsewhere.  A
word that is no number is the same as any other such word, and the two zeros differ. -/
def sameValue : Value → Value → Bool
  | undefined, undefined => true
  | null, null => true
  | bool a, bool b => a == b
  | number x, number y => x.sameValue y
  | bigint m, bigint n => m == n
  | string s, string t => s == t
  | symbol i _, symbol j _ => i == j
  | array i _, array j _ => i == j
  | object i _ _, object j _ _ => i == j
  | function i _, function j _ => i == j
  | date i _, date j _ => i == j
  | regexp i _, regexp j _ => i == j
  | _, _ => false

@[simp] theorem sameValue_refl (v : Value) :
    v.sameValue v = true := by
  cases v <;> simp [sameValue, Binary64.sameValue]

@[simp] theorem property_undefined (key : String) :
    undefined.property key = undefined := by
  rfl

@[simp] theorem property_null (key : String) :
    null.property key = undefined := by
  rfl

@[simp] theorem property_object
    (id : Identity) (cls : Option Class) (entries : List (String × Value)) (key : String) :
    (object id cls entries).property key = (Keyed.get? entries key).getD undefined := by
  rfl

end Value
end ShapeCheck
