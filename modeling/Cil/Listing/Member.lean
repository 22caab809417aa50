import Cil.Listing.Body
import Cil.Metadata.Member

/-!
# Members in a listing

Every member starts with a checkpoint. Properties and events list their accessors as references; the
accessors themselves are methods, listed by whoever lists the member.
-/

namespace Cil

def Access.spans (access : Access) : List Span :=
  let keyword :=
    match access with
    | .privateScope => "privatescope"
    | .private => "private"
    | .familyAndAssembly => "famandassem"
    | .assembly => "assembly"
    | .family => "family"
    | .familyOrAssembly => "famorassem"
    | .public => "public"
  [⟨.keyword, keyword⟩, ⟨.text, " "⟩]

def Attribute.item (custom : Attribute) : Item :=
  .line .detail
    ([⟨.directive, ".custom "⟩, ⟨.keyword, "instance void "⟩] ++ custom.type.qualifiedSpans ++
      [⟨.text, "::"⟩, ⟨.memberName, ".ctor"⟩, ⟨.text, "("⟩] ++
      Span.separated (custom.parameters.map TypeRef.signatureSpans) ++ [⟨.text, ")"⟩] ++
      if custom.blob.isEmpty then []
      else [⟨.text, " = ( "⟩, ⟨.literal, Hex.spaced custom.blob⟩, ⟨.text, " )"⟩])

/-- The comment at the end of a member. -/
def endComment (kind : String) (declaring : Option TypeRef) (name : String) : String :=
  "end of " ++ kind ++ " " ++
    match declaring with
    | none => name
    | some declaring => declaring.name ++ "::" ++ name

/-! ### Methods -/

namespace Method

def headerSpans (method : Method) : List Span :=
  ⟨.directive, ".method "⟩ :: method.access.spans ++
    Span.flags [
      (method.isHideBySig, "hidebysig "),
      (method.isNewSlot, "newslot "),
      (method.isSpecialName, "specialname "),
      (method.isRuntimeSpecialName, "rtspecialname "),
      (method.isAbstract, "abstract "),
      (method.isVirtual, "virtual "),
      (method.isFinal, "final "),
      (method.isStatic, "static "),
      (!method.isStatic, "instance ")] ++
    method.returnType.signatureSpans ++
    [⟨.text, " "⟩, ⟨.memberName, Name.escape method.name⟩, ⟨.text, "("⟩] ++
    Span.separated (method.parameters.map fun parameter =>
      parameter.type.signatureSpans ++ [⟨.text, " "⟩, ⟨.text, Name.escape parameter.name⟩]) ++
    [⟨.text, ") "⟩, ⟨.keyword, "cil managed"⟩]

def listing (style : BodyStyle) (method : Method) : Listing :=
  .checkpoint :: .line .header method.headerSpans ::
    Listing.block (endComment "method" method.declaringType method.name)
      (method.attributes.map Attribute.item ++ method.body.elim [] (·.listing style))

/-- A reference to the method from the property or event that it serves. -/
def accessorItem (directive : String) (method : Method) : Item :=
  .line .detail
    ([⟨.directive, directive⟩, ⟨.text, " "⟩] ++
      methodReferenceSpans (!method.isStatic) method.returnType method.declaringType method.name
        (method.parameters.map Parameter.type))

end Method

/-! ### Fields -/

/-- The literal for a constant of a given type. -/
def Constant.text (type : TypeRef) : Constant → String
  | null => "nullref"
  | bool value => "bool(" ++ (if value then "true" else "false") ++ ")"
  | int value => type.keyword?.getD "int32" ++ "(" ++ value.repr ++ ")"
  | float value => type.keyword?.getD "float64" ++ "(" ++ Decimal.text value ++ ")"
  | string value => Quoted.encode value

def Field.listing (field : Field) : Listing :=
  [.checkpoint,
    .line .header
      (⟨.directive, ".field "⟩ :: field.access.spans ++
        Span.flags [
          (field.isStatic, "static "),
          (field.isInitOnly, "initonly "),
          (field.isLiteral, "literal ")] ++
        field.type.signatureSpans ++ [⟨.text, " "⟩, ⟨.memberName, Name.escape field.name⟩] ++
        match field.constant with
        | none => []
        | some constant => [⟨.text, " = "⟩, ⟨.literal, constant.text field.type⟩])]

/-! ### Properties and events -/

namespace Property

def headerSpans (property : Property) : List Span :=
  ⟨.directive, ".property "⟩ :: Span.flags [(property.hasThis, "instance ")] ++
    property.type.signatureSpans ++
    [⟨.text, " "⟩, ⟨.memberName, Name.escape property.name⟩, ⟨.text, "("⟩] ++
    Span.separated (property.parameters.map (·.type.signatureSpans)) ++ [⟨.text, ")"⟩]

def listing (property : Property) : Listing :=
  .checkpoint :: .line .header property.headerSpans ::
    Listing.block (endComment "property" property.declaringType property.name)
      (property.getter.toList.map (Method.accessorItem ".get") ++
        property.setter.toList.map (Method.accessorItem ".set") ++
        property.others.map (Method.accessorItem ".other"))

end Property

namespace Event

def headerSpans (event : Event) : List Span :=
  ⟨.directive, ".event "⟩ :: event.type.qualifiedSpans ++
    [⟨.text, " "⟩, ⟨.memberName, Name.escape event.name⟩]

def listing (event : Event) : Listing :=
  .checkpoint :: .line .header event.headerSpans ::
    Listing.block (endComment "event" event.declaringType event.name)
      (event.adder.toList.map (Method.accessorItem ".addon") ++
        event.remover.toList.map (Method.accessorItem ".removeon") ++
        event.others.map (Method.accessorItem ".other"))

end Event

end Cil
