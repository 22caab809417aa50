import Cil.Json.Lexeme

/-!
# Documents

The value that a document holds. Values are built by a machine with a stack of the arrays and
objects still open, one lexeme at a time, so nesting of any depth is read.
-/

namespace Cil

/-- The value of a document. Members keep their order, and a key may come again. -/
inductive Json where
  | null
  | bool (value : Bool)
  | number (numeral : Json.Numeral)
  | string (text : Option String)
  | array (elements : List Json)
  | object (members : List (Option String × Json))

namespace Json

/-- An array or object that is still open. What it holds so far comes latest first. -/
inductive Frame where
  | elements (done : List Json)
  | members (done : List (Option String × Json))
  /-- An object that waits for the value of a key. -/
  | member (done : List (Option String × Json)) (key : Option String)

/-- What has to come next. -/
inductive Expected where
  | value
  /-- The first element of an array, or its end. -/
  | element
  | key
  /-- The first key of an object, or its end. -/
  | firstKey
  | colon
  /-- A comma, or the end of the innermost array or object. -/
  | separator
  /-- Nothing: the document is complete and holds this value. -/
  | nothing (result : Json)

/-- A reader in the middle of a document. -/
structure Reader where
  expected : Expected := .value
  stack : List Frame := []

namespace Reader

/-- Puts a complete value where it belongs. -/
def put (value : Json) : List Frame → Option Reader
  | [] => some { expected := .nothing value }
  | .elements done :: stack =>
    some { expected := .separator, stack := .elements (value :: done) :: stack }
  | .member done key :: stack =>
    some { expected := .separator, stack := .members ((key, value) :: done) :: stack }
  | .members _ :: _ => none

/-- Starts a value, or puts it if it is complete with one lexeme. -/
def begin (stack : List Frame) : Lexeme → Option Reader
  | .null => put .null stack
  | .bool value => put (.bool value) stack
  | .number numeral => put (.number numeral) stack
  | .string text => put (.string text) stack
  | .openArray => some { expected := .element, stack := .elements [] :: stack }
  | .openObject => some { expected := .firstKey, stack := .members [] :: stack }
  | _ => none

def step (reader : Reader) (lexeme : Lexeme) : Option Reader :=
  match reader.expected, lexeme, reader.stack with
  | .value, lexeme, stack => begin stack lexeme
  | .element, .closeArray, .elements done :: stack => put (.array done.reverse) stack
  | .element, lexeme, stack => begin stack lexeme
  | .firstKey, .closeObject, .members done :: stack => put (.object done.reverse) stack
  | .firstKey, .string key, .members done :: stack
  | .key, .string key, .members done :: stack =>
    some { expected := .colon, stack := .member done key :: stack }
  | .colon, .colon, stack => some { expected := .value, stack }
  | .separator, .comma, .elements done :: stack =>
    some { expected := .value, stack := .elements done :: stack }
  | .separator, .closeArray, .elements done :: stack => put (.array done.reverse) stack
  | .separator, .comma, .members done :: stack =>
    some { expected := .key, stack := .members done :: stack }
  | .separator, .closeObject, .members done :: stack => put (.object done.reverse) stack
  | _, _, _ => none

def run (reader : Reader) : List Lexeme → Option Json
  | [] =>
    match reader.expected with
    | .nothing result => some result
    | _ => none
  | lexeme :: lexemes =>
    match reader.step lexeme with
    | some reader => reader.run lexemes
    | none => none

end Reader

/-- Reads a document. -/
def read? (text : String) : Option Json := do
  let lexemes ← lexemes? text
  ({} : Reader).run lexemes

end Json

end Cil
