import Cil.Command.Arguments
import Cil.Language.Registry
import Cil.Metadata.Document
import Cil.Text.Export

/-!
# What the command answers

The command prints a rendering in full or not at all. If it fails, it tells what it was doing and
what went wrong, from the outside in.
-/

namespace Cil.Command

/-- Why a file gave no text. -/
inductive ReadFailure where
  | notFound
  | isDirectory
  | notDirectory
  | nameTooLong
  | accessDenied
  | notText
  | other (message : String)
deriving DecidableEq, Repr

def ReadFailure.message : ReadFailure → String
  | notFound => "No such file or directory (os error 2)"
  | isDirectory => "Is a directory (os error 21)"
  | notDirectory => "Not a directory (os error 20)"
  | nameTooLong => "File name too long (os error 36)"
  | accessDenied => "Permission denied (os error 13)"
  | notText => "stream did not contain valid UTF-8"
  | other message => message

/-- Why the command failed. -/
inductive Failure where
  | unknownLanguage (name : String) (available : List String)
  | unreadable (path : String) (failure : ReadFailure)
  | malformed (path : String)
  | resolve (error : ResolveError)
  | render (language : String) (error : RenderError)
deriving DecidableEq, Repr

namespace Failure

/-- What the command was doing, or what went wrong if there is nothing else to say. -/
def message : Failure → String
  | unknownLanguage name available =>
    "Unknown language `" ++ name ++ "`; available: " ++ ", ".intercalate available
  | unreadable path _ => "Failed to read metadata file " ++ path
  | malformed path => "Failed to load metadata from " ++ path
  | resolve error => error.message
  | render language _ => "Failed to render with language " ++ language

/-- What went wrong, each cause caused by the next. -/
def causes : Failure → List String
  | unknownLanguage _ _ | resolve _ => []
  | unreadable _ failure => [failure.message]
  | malformed _ => ["Failed to parse assembly JSON", "the document does not describe an assembly"]
  | render _ error => [error.message]

/-- The text of causes; several are numbered. -/
def causesText : List String → String
  | [] => ""
  | [cause] => "\nCaused by:\n    " ++ cause ++ "\n"
  | causes =>
    "\nCaused by:\n" ++
      String.join (causes.mapIdx fun index cause => "    " ++ index.repr ++ ": " ++ cause ++ "\n")

def report (failure : Failure) : String :=
  "Error: " ++ failure.message ++ "\n" ++ causesText failure.causes

end Failure

/-- The last part of a path, empty if that does not name a file. -/
def fileName (path : String) : String :=
  match (path.splitOn "/").reverse.filter fun part => part ≠ "" ∧ part ≠ "." with
  | [] => ""
  | part :: _ => if part = ".." then "" else part

/-- The languages with their file extensions. -/
def languageList (registry : Registry) : String :=
  String.join (registry.languages.map fun language =>
    language.name ++ "\t" ++ language.fileExtension ++ "\n")

/-- Calls as the chosen format prints them. -/
def OutputFormat.print (calls : List Call) : OutputFormat → String
  | text => Call.plain calls
  | tokens => String.join ((Record.ofCalls calls).lines.map fun line => Export.line line ++ "\n")

/-- Renders what the arguments ask for. -/
def rendering (registry : Registry) (arguments : Arguments) (path : String)
    (contents : Except ReadFailure String) : Except Failure String := do
  let name := arguments.language.getD "IL"
  let language ← match registry.get? name with
    | some language => pure language
    | none => throw (.unknownLanguage name registry.names)
  let contents ← contents.mapError (.unreadable path)
  let assembly ← match Document.load? contents (fileName path) with
    | some assembly => pure assembly
    | none => throw (.malformed path)
  let entity ← ((arguments.selector.getD .assembly).resolve assembly).mapError .resolve
  match language.render arguments.full .never false entity with
  | (session, none) => return (arguments.format.getD .text).print session.written
  | (_, some error) => throw (.render language.name error)

/-- What the command prints and its exit code. -/
structure Response where
  exitCode : UInt8 := 0
  output : String := ""
  diagnostics : String := ""
deriving DecidableEq, Repr

def versionText : String := "ilview 0.1.0\n"

def helpText : String :=
  "Render .NET assembly metadata as IL or another output language\n\n" ++
  "Usage: ilview [OPTIONS] [INPUT]\n\n" ++
  "  -l, --language <LANGUAGE>  Output language\n" ++
  "  -e, --entity <ENTITY>      Entity to render\n" ++
  "  -f, --full                 Render bodies, references and module contents\n" ++
  "      --format <FORMAT>      text or tokens\n" ++
  "      --list-languages       Print the available languages and exit\n" ++
  "  -h, --help                 Print help\n" ++
  "  -V, --version              Print version\n"

/-- The response when the arguments could not be read to their end. -/
def Stop.response : Stop → Response
  | usage error => { exitCode := 2, diagnostics := "error: " ++ error.message ++ "\n" }
  | help => { output := helpText }
  | version => { output := versionText }

/-- The response to arguments, given what reading the input would give. -/
def respond (registry : Registry) (arguments : Arguments)
    (contents : Except ReadFailure String) : Response :=
  if arguments.listLanguages then { output := languageList registry }
  else
    match rendering registry arguments (arguments.input.getD "") contents with
    | .ok output => { output }
    | .error failure => { exitCode := 1, diagnostics := failure.report }

end Cil.Command
