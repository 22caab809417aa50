/-!
# Tagged text

A listing is written as a sequence of calls: pieces of text, each tagged with what it is, and line
ends. The tags are for whoever colours the listing; they never change the text.
-/

namespace Cil

/-- What a piece of text is. -/
inductive Token where
  | text
  | comment
  | keyword
  | directive
  | typeName
  | memberName
  | opcode
  | label
  | literal
deriving DecidableEq, Repr, Inhabited

namespace Token

/-- The name under which a tag is exported. -/
def name : Token → String
  | text => "text"
  | comment => "comment"
  | keyword => "keyword"
  | directive => "directive"
  | typeName => "type_name"
  | memberName => "member_name"
  | opcode => "opcode"
  | label => "label"
  | literal => "literal"

def all : List Token :=
  [text, comment, keyword, directive, typeName, memberName, opcode, label, literal]

def ofName? (name : String) : Option Token :=
  all.find? fun token => token.name == name

end Token

/-- A piece of text with its tag. -/
structure Span where
  token : Token
  text : String
deriving DecidableEq, Repr, Inhabited

/-- The text of a run of spans, without the tags. -/
def Span.plain (spans : List Span) : String := String.join (spans.map Span.text)

/-- One thing done to a sink: a piece is appended to the pending line, or that line is ended. -/
inductive Call where
  | write (span : Span)
  | endLine
deriving DecidableEq, Repr

namespace Call

/-- What a call adds to the plain text. -/
def text : Call → String
  | write span => span.text
  | endLine => "\n"

/-- The plain text that a sequence of calls leaves behind. -/
def plain (calls : List Call) : String := String.join (calls.map text)

@[simp] theorem plain_nil : plain [] = "" := rfl

@[simp] theorem plain_append (first second : List Call) :
    plain (first ++ second) = plain first ++ plain second := by
  simp [plain]

end Call

end Cil
