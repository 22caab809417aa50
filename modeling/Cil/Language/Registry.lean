import Cil.Language.Builtin
import Cil.Unicode.Alphanumeric
import Cil.Unicode.Lowercase

/-!
# The registry of languages

Languages are found by name, where case and anything but letters and numbers does not count. Of
several languages with the same name in this sense the first one registered is found.
-/

namespace Cil

/-- What counts of a name. -/
def lookupKey (name : String) : List Char :=
  (name.toList.filter Unicode.isAlphanumeric).flatMap Unicode.lowercase

/-- Languages in the order of their registration. -/
structure Registry where
  languages : List Language := []

namespace Registry

def register (registry : Registry) (language : Language) : Registry :=
  ⟨registry.languages ++ [language]⟩

/-- The first language with a name. -/
def get? (registry : Registry) (name : String) : Option Language :=
  registry.languages.find? fun language => lookupKey language.name == lookupKey name

def names (registry : Registry) : List String := registry.languages.map Language.name

def size (registry : Registry) : Nat := registry.languages.length

def isEmpty (registry : Registry) : Bool := registry.languages.isEmpty

/-- The disassembly in both forms, and comments. -/
def builtin : Registry :=
  (((({} : Registry).register (.disassembly .flat)).register (.disassembly .structured)).register
    .commentsOnly)

end Registry

end Cil
