import Cil.Entity
import Cil.Listing.Run
import Cil.Metadata.Diagnostic

/-!
# Languages

A language is a way of rendering entities. All a language has to say is its name and the extension
of its files: by default an entity is rendered as a comment that names it.
-/

namespace Cil

/-! ### What a language does unless it says otherwise -/

namespace Language

def defaultComment (comment : String) : List Span := [⟨.comment, "// " ++ comment⟩]

/-- A missing type has no text. -/
def defaultTypeText : Option TypeRef → (withNamespace : Bool) → String
  | none, _ => ""
  | some ref, true => ref.fullName
  | some ref, false => ref.name

section

variable (typeText : Option TypeRef → Bool → String)

/-- The comments that name an entity: one line each. -/
def comments : Entity → List String
  | .method method => [memberComment method.declaringType method.name]
  | .field field => [memberComment field.declaringType field.name]
  | .property property => [memberComment property.declaringType property.name]
  | .event event => [memberComment event.declaringType event.name]
  | .type type => [typeText (some type.toRef) true]
  | .space name _ => [name]
  | .assembly assembly =>
    [assembly.fileName,
      match assembly.manifest with
      | none => assembly.module.name
      | some manifest =>
        if manifest.isWindowsRuntime then manifest.name ++ " [WinRT]" else manifest.fullName]
where
  memberComment (declaring : Option TypeRef) (name : String) : String :=
    typeText declaring true ++ "." ++ name

def defaultTooltip : MemberRef → String
  | .typeRef ref => typeText (some ref) true
  | .typeDef type => typeText (some type.toRef) true
  | member => member.text

end

def defaultPropertyName : Option Property → Option Bool → Except RenderError String
  | none, _ => .error (.missingArgument "property")
  | some property, _ => .ok property.name

def defaultTypeName : Option TypeDef → Except RenderError String
  | none => .error (.missingArgument "type")
  | some type => .ok type.name

end Language

/-- A way of rendering entities. -/
structure Language where
  name : String
  /-- The extension of files in this language, with its dot. -/
  fileExtension : String
  projectExtension : Option String := none
  /-- The line for a comment. -/
  comment : String → List Span := Language.defaultComment
  /-- The text of a type, with or without its namespace. -/
  typeText : Option TypeRef → (withNamespace : Bool) → String := Language.defaultTypeText
  listing : (full : Bool) → Entity → Listing := fun _ entity =>
    (Language.comments typeText entity).map fun text => .line .detail (comment text)
  /-- What is shown of a member that is hovered over. -/
  tooltip : MemberRef → String := Language.defaultTooltip typeText
  propertyName : Option Property → (isIndexer : Option Bool) → Except RenderError String :=
    Language.defaultPropertyName
  typeName : Option TypeDef → Except RenderError String :=
    Language.defaultTypeName
  /-- Whether a member belongs in a view. -/
  showsMember : MemberRef → Bool := fun _ => true
  /-- The member for which generated code was generated. -/
  codeLocation : MemberRef → MemberRef := id

namespace Language

/-- The language in a diagnostic. -/
def diagnostic (language : Language) : String :=
  Diagnostic.record "Language" [
    ("name", Diagnostic.text language.name),
    ("file_extension", Diagnostic.text language.fileExtension)]

/-- Renders an entity to a fresh sink. -/
def render (language : Language) (full : Bool) (watch : Watch) (cancelled : Bool)
    (entity : Entity) : Session × Option RenderError :=
  ({ cancelled } : Session).run watch (language.listing full entity)

end Language

end Cil
