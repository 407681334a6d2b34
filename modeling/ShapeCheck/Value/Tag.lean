import ShapeCheck.Value.Basic

/-!
# Type tags

Three classifications of a value, each finer than the one before.  The raw type is the coarsest,
and null counts as an object there; the type that decides whether a value passes splits off arrays
and everything that counts as a symbol; the precise type, shown in messages only, also splits off
null, dates and regular expressions.

Main statement: `preciseType_eq_propType`: the precise type refines the deciding type.
-/

namespace ShapeCheck

/-- A type tag. -/
inductive Tag where
  | undefined
  | null
  | boolean
  | number
  | bigint
  | string
  | symbol
  | function
  | object
  | array
  | date
  | regexp
deriving DecidableEq

namespace Tag

def name : Tag → String
  | undefined => "undefined"
  | null => "null"
  | boolean => "boolean"
  | number => "number"
  | bigint => "bigint"
  | string => "string"
  | symbol => "symbol"
  | function => "function"
  | object => "object"
  | array => "array"
  | date => "date"
  | regexp => "regexp"

/-- The name with an article where a message reads better with one. -/
def withArticle (tag : Tag) : String :=
  match tag with
  | array | object => "an " ++ tag.name
  | boolean | date | regexp => "a " ++ tag.name
  | _ => tag.name

/-- Different tags have different names. -/
theorem name_injective {s t : Tag} (h : s.name = t.name) :
    s = t := by
  cases s <;> cases t <;> first | rfl | exact absurd h (by decide)

end Tag

namespace Value

def typeOf : Value → Tag
  | undefined => .undefined
  | null => .object
  | bool _ => .boolean
  | number _ => .number
  | bigint _ => .bigint
  | string _ => .string
  | symbol _ _ => .symbol
  | function _ _ => .function
  | array _ _ | object _ _ _ | date _ _ | regexp _ _ => .object

/-- The property by which an object declares itself a symbol. -/
def symbolMarkerKey : String :=
  "@@toStringTag"

/-- Whether a value declares itself a symbol by an own property. -/
def isMarkedSymbol (v : Value) : Bool :=
  v.isTruthy &&
    match v.property? symbolMarkerKey with
    | some (string marker) => marker == "Symbol"
    | _ => false

/-- Whether a value counts as a symbol: its raw type, given by name, is that of symbols, or it
declares itself one. -/
def isSymbol (rawType : String) (v : Value) : Bool :=
  rawType == Tag.symbol.name || v.isMarkedSymbol

/-- The type that decides whether a value passes. -/
def propType (v : Value) : Tag :=
  match v with
  | array _ _ => .array
  | regexp _ _ => .object
  | _ => if v.isSymbol v.typeOf.name then .symbol else v.typeOf

/-- The type that messages show. -/
def preciseType (v : Value) : Tag :=
  match v with
  | undefined => .undefined
  | null => .null
  | date _ _ => .date
  | regexp _ _ => .regexp
  | _ => v.propType

/-- The name of the constructor of a value. -/
def className (v : Value) : String :=
  nameOr anonymousName <|
    match v with
    | undefined | null => none
    | bool _ => some "Boolean"
    | number _ => some "Number"
    | bigint _ => some "BigInt"
    | string _ => some "String"
    | symbol _ _ => some "Symbol"
    | array _ _ => some "Array"
    | function _ _ => some "Function"
    | date _ _ => some "Date"
    | regexp _ _ => some "RegExp"
    | object _ (some cls) _ => cls.name
    | object _ none _ => some "Object"

/-- The precise type is the deciding type except on null, dates and regular expressions. -/
theorem preciseType_eq_propType
    {v : Value}
    (hnull : v ≠ null)
    (hdate : ∀ id instant, v ≠ date id instant)
    (hregexp : ∀ id source, v ≠ regexp id source) :
    v.preciseType = v.propType := by
  cases v with
  | undefined => rfl
  | null => exact absurd rfl hnull
  | date id instant => exact absurd rfl (hdate id instant)
  | regexp id source => exact absurd rfl (hregexp id source)
  | _ => rfl

end Value
end ShapeCheck
