/-!
# Classes

A class has an identity, perhaps a name, and perhaps a class that it extends.  Classes are compared
by identity alone.  The builtin classes extend nothing.

Main statements: `derivesFrom_refl` and `derivesFrom_extend`.
-/

namespace ShapeCheck

/-- What tells one class from another. -/
inductive ClassId where
  | object
  | array
  | function
  | date
  | regexp
  /-- A class declared by a user, numbered in order of declaration. -/
  | declared (number : Nat)
deriving DecidableEq

/-- A class together with the classes that it extends. -/
inductive Class where
  | base (id : ClassId) (name : Option String)
  | extend (id : ClassId) (name : String) (parent : Class)
deriving DecidableEq

/-- What stands for a missing or empty name. -/
def anonymousName : String :=
  "<<anonymous>>"

/-- The name, unless it is missing or empty. -/
def nameOr (fallback : String) : Option String → String
  | some name => if name.isEmpty then fallback else name
  | none => fallback

namespace Class

/-- What tells a class from others. -/
def id : Class → ClassId
  | base id _ => id
  | extend id _ _ => id

def name : Class → Option String
  | base _ name => name
  | extend _ name _ => some name

/-- The class that a class extends. -/
def parent? : Class → Option Class
  | base _ _ => none
  | extend _ _ parent => some parent

/-- Whether two classes are one. -/
def same (c d : Class) : Bool :=
  c.id = d.id

/-- Whether a class is `ancestor` or extends a class that derives from it. -/
def derivesFrom : Class → Class → Bool
  | base id name, ancestor => (base id name).same ancestor
  | extend id name parent, ancestor =>
      (extend id name parent).same ancestor || parent.derivesFrom ancestor

/-- The name that a message shows. -/
def label (c : Class) : String :=
  nameOr anonymousName c.name

/-- The text for diagnosis. -/
def description (c : Class) : String :=
  "Class(" ++ c.name.getD "<anonymous>" ++ ")"

/-- The builtin class of all objects. -/
def object : Class :=
  base .object (some "Object")

def array : Class :=
  base .array (some "Array")

def function : Class :=
  base .function (some "Function")

def date : Class :=
  base .date (some "Date")

def regexp : Class :=
  base .regexp (some "RegExp")

@[simp] theorem derivesFrom_refl (c : Class) :
    c.derivesFrom c = true := by
  cases c <;> simp [derivesFrom, same]

@[simp] theorem derivesFrom_extend
    (id : ClassId) (name : String) (parent : Class) :
    (extend id name parent).derivesFrom parent = true := by
  simp [derivesFrom]

end Class
end ShapeCheck
