import RecordMapper.Disk.Tree

/-!
# Text files

Writing a text in a named encoding and reading input. The directory is made before the text is
encoded, so it stays when the encoding fails; the file itself appears all at once.
-/
namespace RecordMapper.Disk

open RecordMapper.Text

/-- Writes a text and answers the number of bytes. -/
def writeText (encoding : String) (path : Path) (text : String) : Change Nat := do
  ensureDirectory path.parent
  let content ← liftM (Encoding.encodeNamed (← get).codePages encoding text)
  if hasNul path.name then throw .nulInPath
  replaceFile path content
  return content.length

/-- The path from the root that a path means, with double dots taken out as written. -/
def resolve (d : Disk) (path : Path) : Path := ⟨"/", (d.placeOf path).reverse⟩

end RecordMapper.Disk
