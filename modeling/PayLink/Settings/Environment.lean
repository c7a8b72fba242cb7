/-!
# Environments

Variables with their values, as lines that hold a name, an equals sign and a value. The value of a
name is what follows the name and an equals sign at the start of the first line that begins so.
-/

namespace PayLink

/-- Variables with their values, in order. -/
structure Environment where
  /-- The variables. -/
  entries : List (String × String)
  deriving Repr

namespace Environment

/-- The line of a variable. -/
def line (variableAndValue : String × String) : List Char :=
  variableAndValue.1.toList ++ '=' :: variableAndValue.2.toList

/-- The value of a name, if it has one. -/
def get? (env : Environment) (name : List Char) : Option (List Char) :=
  if name.isEmpty ∨ name.contains '\x00' then none
  else env.entries.findSome? fun v => List.isPrefixOf? (name ++ ['=']) (line v)

/-- The value of a name that is given as a string. -/
def find? (env : Environment) (name : String) : Option String :=
  (env.get? name.toList).map String.ofList

/-- Adds a variable unless its name has a value. -/
def setIfMissing (env : Environment) (name value : List Char) : Environment :=
  if (env.get? name).isSome then env
  else ⟨env.entries ++ [(String.ofList name, String.ofList value)]⟩

end Environment

end PayLink
