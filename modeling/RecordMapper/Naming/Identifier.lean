import RecordMapper.Text.Lines

/-!
# Identifiers

Which names are accepted as declared names. Both recognisers let one line break pass at the very
end of a name.
-/
namespace RecordMapper.Naming

def isIdentifierStart (c : Char) : Bool := c.isAlpha || c = '_' || c = '$'

def isIdentifierPart (c : Char) : Bool := c.isAlphanum || c = '_' || c = '$'

/-- The characters without one line break at the end. -/
def dropFinalBreak (cs : List Char) : List Char :=
  if cs.getLast? = some '\n' then cs.dropLast else cs

/-- A letter, underscore or dollar sign, then such characters and digits, all of them ASCII. -/
def isPlainIdentifier (name : String) : Bool :=
  match dropFinalBreak name.toList with
  | c :: rest => isIdentifierStart c && rest.all isIdentifierPart
  | [] => false

/-- Back-quotes around at least one character that is no back-quote. -/
def isQuotedIdentifier (name : String) : Bool :=
  match dropFinalBreak name.toList with
  | '\x60' :: rest =>
    rest.getLast? = some '\x60' && !rest.dropLast.isEmpty && rest.dropLast.all (· ≠ '\x60')
  | _ => false

def isIdentifier (name : String) : Bool := isPlainIdentifier name || isQuotedIdentifier name

end RecordMapper.Naming
