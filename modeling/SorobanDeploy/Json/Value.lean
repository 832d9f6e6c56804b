import SorobanDeploy.Number.Shortest
import SorobanDeploy.Pairs
import SorobanDeploy.Text.Quoted

/-!
# JSON values

A value of a JSON document, and the text under which messages show it: a text at the top is shown as
it is, and inside a list or an object it is quoted. The members of an object stand in the order in
which their names first appear.
-/

namespace SorobanDeploy

/-- A JSON value. Whole numbers are unbounded; a number with a fraction or an exponent is a
double. -/
inductive Json where
  | null
  | bool (b : Bool)
  | whole (n : Int)
  | real (x : Binary64)
  | text (s : String)
  | list (items : List Json)
  | object (members : List (String × Json))
  deriving Repr

namespace Json

mutual

/-- A value as it is shown inside another one. -/
def inner : Json → String
  | .null => "None"
  | .bool b => if b then "True" else "False"
  | .whole n => toString n
  | .real x => x.text
  | .text s => Text.quoted s
  | .list items => "[" ++ innerItems items ++ "]"
  | .object members => "\x7b" ++ innerMembers members ++ "\x7d"

/-- The items of a list, separated by commas. -/
def innerItems : List Json → String
  | [] => ""
  | [v] => inner v
  | v :: w :: rest => inner v ++ ", " ++ innerItems (w :: rest)

/-- The members of an object, separated by commas. -/
def innerMembers : List (String × Json) → String
  | [] => ""
  | [(k, v)] => Text.quoted k ++ ": " ++ inner v
  | (k, v) :: w :: rest => Text.quoted k ++ ": " ++ inner v ++ ", " ++ innerMembers (w :: rest)

end

/-- A value as messages show it. -/
def shown : Json → String
  | .text s => s
  | v => v.inner

/-- The name of the kind of a value, in the words of a type error. -/
def kindName : Json → String
  | .null => "NoneType"
  | .bool _ => "bool"
  | .whole _ => "int"
  | .real _ => "float"
  | .text _ => "str"
  | .list _ => "list"
  | .object _ => "dict"

/-- The member of an object. -/
def member? (name : String) : Json → Option Json
  | .object members => Pairs.get? name members
  | _ => none

end Json

end SorobanDeploy
