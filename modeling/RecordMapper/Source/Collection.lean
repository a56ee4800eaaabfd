import RecordMapper.Config.Options

/-!
# Collections of rows

How results of many rows are declared and materialised, for every choice of the container.
-/
namespace RecordMapper.Source

open RecordMapper.Config

/-- `typeParameter` and the factory parameter are empty unless the caller picks the container. -/
structure CollectionShape where
  typeParameter : String
  returnType : String
  rows : String
  usesFactory : Bool
  deriving DecidableEq, Repr

namespace CollectionShape

/-- The name of the container type that the caller picks. -/
def factoryType : String := "C"

def of : ReturnCollection → CollectionShape
  | .list => ⟨"", "List", "list.apply()", false⟩
  | .vector => ⟨"", "Vector", "collection.apply[Vector]()", false⟩
  | .array => ⟨"", "Array", "collection.apply[Array]()", false⟩
  | .factory =>
    ⟨"[" ++ factoryType ++ "[_]]", factoryType, "collection.apply[" ++ factoryType ++ "]()", true⟩

/-- The implicit parameter that builds the container of elements. -/
def factoryParameter (shape : CollectionShape) (element : String) : String :=
  if shape.usesFactory then
    ", " ++ factoryType ++ ": Factory[" ++ element ++ ", " ++ factoryType ++ "[" ++ element ++ "]]"
  else ""

/-- The container with its element type. -/
def applied (shape : CollectionShape) (element : String) : String :=
  shape.returnType ++ "[" ++ element ++ "]"

end CollectionShape

end RecordMapper.Source
