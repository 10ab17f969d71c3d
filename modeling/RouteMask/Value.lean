import RouteMask.Text.Quoted

/-! # Dynamic values

The values that configurations are made of and that handlers may carry.  `Value.field?` looks a field of
a record up, `Value.typeName` is the word for a value's type in messages, and `Value.scalarText`
is the text of a value that stands where a text is wanted. -/

namespace RouteMask

/-- A dynamic value.  A number with a fraction is kept as it is written. -/
inductive Value where
  | null
  | bool (b : Bool)
  | int (n : Int)
  | float (written : Text)
  | text (s : Text)
  | list (items : List Value)
  | record (fields : List (Text × Value))

namespace Value

/-- The word for the type of a value. -/
def typeName : Value → String
  | null => "NoneType"
  | bool _ => "bool"
  | int _ => "int"
  | float _ => "float"
  | text _ => "str"
  | list _ => "list"
  | record _ => "dict"

/-- The text of a value that is no collection. -/
def scalarText : Value → Text
  | null => "None".toList
  | bool true => "True".toList
  | bool false => "False".toList
  | int n => (toString n).toList
  | float written => written
  | text s => s
  | list _ | record _ => []

/-- The value of a field, the last one when the field is given twice. -/
def field? (name : Text) (fields : List (Text × Value)) : Option Value :=
  fields.reverse.lookup name

end Value

end RouteMask
