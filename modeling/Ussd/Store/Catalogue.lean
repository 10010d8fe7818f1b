import Ussd.Service.Definition
/-!
# The catalogue of services

Services by code, each with its definition as text. A service is reached by dialling its short code
or through the main menu, which lists the active services by name.
-/

namespace Ussd

structure ServiceRecord where
  code : String
  name : String
  /-- Empty if the service cannot be dialled. -/
  shortCode : String
  definitionText : String
  isActive : Bool
  deriving DecidableEq, Repr, Inhabited

/-- The record of an active service; a service without a name is listed by its code. -/
def ServiceRecord.ofDefinition (definition : Definition) : ServiceRecord where
  code := definition.serviceCode
  name :=
    if definition.serviceName.isEmpty then definition.serviceCode else definition.serviceName
  shortCode := definition.shortCode
  definitionText := definition.toText
  isActive := true

abbrev Catalogue := Table ServiceRecord

namespace Catalogue

def add (catalogue : Catalogue) (record : ServiceRecord) : Catalogue :=
  Table.insert catalogue record.code record

def register (catalogue : Catalogue) (definition : Definition) : Catalogue :=
  catalogue.add (.ofDefinition definition)

def byShortCode? (catalogue : Catalogue) (shortCode : String) : Option ServiceRecord :=
  catalogue.values.find? fun record => !record.shortCode.isEmpty && record.shortCode == shortCode

def active (catalogue : Catalogue) : List ServiceRecord :=
  (catalogue.values.filter ServiceRecord.isActive).mergeSort fun left right =>
    !decide (right.name < left.name)

end Catalogue

end Ussd
