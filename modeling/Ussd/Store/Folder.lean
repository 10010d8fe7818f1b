import Ussd.Fault
import Ussd.Store.Catalogue
import Ussd.Yaml.Reader
/-!
# Folders of definitions

A folder holds definitions as files, in JSON or in YAML as the ending of a file's name tells. A
catalogue takes in what a folder holds; a file that is no definition does not hinder the others, and
a service whose file has gone stays in the catalogue.
-/

namespace Ussd

inductive DefinitionFormat where
  | json
  | yaml
  deriving DecidableEq, Repr, Inhabited

namespace DefinitionFormat

/-- What follows the last dot of a name, if something precedes that dot. -/
def ending? (name : List Char) : Option (List Char) :=
  let ending := (name.reverse.takeWhile (· != '.')).reverse
  let stem := name.take (name.length - ending.length - 1)
  if stem.isEmpty then none else some ending

def ofFileName? (name : String) : Option DefinitionFormat :=
  match (ending? name.toList).map fun ending => String.ofList (ending.map Char.toLower) with
  | some "json" => some .json
  | some "yaml" => some .yaml
  | some "yml" => some .yaml
  | _ => none

def read? (format : DefinitionFormat) (content : String) : Option Definition :=
  match format with
  | .json => Definition.ofText? content
  | .yaml => (Yaml.readDocument? content).bind fun node => (Definition.decode node).toOption

end DefinitionFormat

structure DefinitionFile where
  name : String
  /-- Nothing where there is no text to read, as in a folder within the folder. -/
  content : Option String
  deriving DecidableEq, Repr, Inhabited

def DefinitionFile.definition? (file : DefinitionFile) : Option Definition :=
  (DefinitionFormat.ofFileName? file.name).bind fun format => file.content.bind format.read?

abbrev Folder := List DefinitionFile

namespace Folder

def write (folder : Folder) (file : DefinitionFile) : Folder :=
  match folder with
  | [] => [file]
  | known :: rest => if known.name = file.name then file :: rest else known :: write rest file

def remove (folder : Folder) (name : String) : Folder := folder.filter fun file => file.name ≠ name

def definitions (folder : Folder) : List Definition := folder.filterMap DefinitionFile.definition?

end Folder

def Catalogue.reload (catalogue : Catalogue) (folder : Option Folder) :
    Except Fault (Nat × Catalogue) :=
  match folder with
  | none => .error (.of .storageError "Failed to read the folder of definitions")
  | some folder =>
    .ok (folder.definitions.length, folder.definitions.foldl Catalogue.register catalogue)

def Catalogue.open (folder : Option Folder) : Except Fault Catalogue :=
  (Catalogue.reload [] folder).map Prod.snd

end Ussd
