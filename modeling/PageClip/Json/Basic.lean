import PageClip.Decimal.Binary64
import PageClip.Table

/-!
# JSON values

Objects keep the order of their keys. Integers have any size; other numbers are
floating-point numbers.
-/

namespace PageClip

inductive Json where
  | null
  | bool (value : Bool)
  | integer (value : Int)
  | real (value : Decimal.Binary64)
  | string (value : String)
  | array (items : List Json)
  | object (fields : List (String × Json))

namespace Json

instance : Inhabited Json := ⟨.null⟩

def field? (name : String) : Json → Option Json
  | .object fields => Table.find? name fields
  | _ => none

def strings (items : List String) : Json := .array (items.map .string)

def emptyObject : Json := .object []

def emptyArray : Json := .array []

end Json

end PageClip
