import ComponentMarkup.Diagnostic
import ComponentMarkup.SourceFile
import ComponentMarkup.Tag

/-!
Bringing components into the scope of a file: its own declarations first, then those of the files
it links. A declaration of the file hides what it imports; any other clash is reported once, at
both places.
-/

namespace ComponentMarkup

/-- The scope of a file while it is being filled, and the table its components are in. -/
structure Linking where
  scope : Scope := {}
  components : ComponentTable
  reports : Diagnostics := []

namespace Linking

def report (l : Linking) (problem : Problem) (file : Path) (position : Position) : Linking :=
  { l with reports := l.reports ++ [⟨problem, file, position⟩] }

def clash (tag : String) (isLocal second : Bool) : Problem :=
  if isLocal then .duplicateDeclaration tag second else .duplicateImport tag second

/-- Flags the component that keeps the tag and reports where both are declared. -/
def reportClash (l : Linking) (file : Path) (existing : ComponentId) (first second : Component) :
    Linking :=
  let isLocal := second.file == file
  let flagged :=
    { l with components := l.components.update existing fun c => { c with hasConflict := true } }
  (flagged.report (clash second.tag isLocal false) first.file first.position).report
    (clash second.tag isLocal true) second.file second.position

/-- Puts a component into the scope of `file` under its tag, unless the tag is taken. -/
def register (file : Path) (l : Linking) (id : ComponentId) : Linking :=
  match l.components.get? id with
  | none => l
  | some second =>
      match l.scope.find? second.tag with
      | none => { l with scope := l.scope.insert second.tag id }
      | some existing =>
          match l.components.get? existing with
          | none => l
          | some first =>
              if existing = id then l
              else if first.file == file && !(second.file == file) then l
              else if first.hasConflict then l
              else l.reportClash file existing first second

/-! ## Script files -/

/-- The unit of a script file, when the script was given. -/
def attach (scripts : OrderedMap Path CodeUnit) (external owner : Path) :
    Option CodeUnit × Diagnostics :=
  match scripts.find? external with
  | none => (none, [])
  | some unit =>
      (some unit, if unit.isLibrary then [] else [⟨.externalPart external.text, owner, unit.start⟩])

/-- Gives a component the unit of its script file, unless it has one. -/
def attachCode (scripts : OrderedMap Path CodeUnit) (l : Linking) (id : ComponentId) : Linking :=
  match l.components.get? id with
  | some { code := none, external := some external, file, .. } =>
      let (unit, reports) := attach scripts external file
      { l with
        components := l.components.update id fun c => { c with code := unit }
        reports := l.reports ++ reports }
  | _ => l

/-! ## Bases -/

/-- Looks up what a component extends. Extending a standard element needs no component. -/
def findBase (l : Linking) (id : ComponentId) : Linking :=
  match l.components.get? id with
  | none => l
  | some c =>
      let found := (l.scope.find? c.extendsTag).filter (· != id)
      match found with
      | some base =>
          { l with components := l.components.update id fun c => { c with base := some base } }
      | none =>
          if Tag.isCustom c.extendsTag then
            l.report (.unknownElement c.extendsTag) c.file c.position
          else l

end Linking

/-- The components that `links` bring in, those of files that are not there left out. -/
def importedBy (files : OrderedMap Path SourceFile) (links : List Path) : List ComponentId :=
  links.flatMap fun link =>
    match files.find? link with
    | some file => file.declared
    | none => []

/-- The code of a file, taken from its script file when it has none of its own. -/
def attachFileCode (scripts : OrderedMap Path CodeUnit) (file : SourceFile) :
    SourceFile × Diagnostics :=
  match file.code, file.external with
  | none, some external =>
      let (unit, reports) := Linking.attach scripts external file.path
      ({ file with code := unit }, reports)
  | _, _ => (file, [])

/-- Links one file against the others. -/
def linkFile (files : OrderedMap Path SourceFile) (scripts : OrderedMap Path CodeUnit)
    (components : ComponentTable) (file : SourceFile) : SourceFile × ComponentTable × Diagnostics :=
  let (file, reports) := attachFileCode scripts file
  let start : Linking := { scope := file.scope, components, reports }
  let declared := file.declared.foldl
    (fun l id => (l.register file.path id).attachCode scripts id) start
  let imported := (importedBy files file.componentLinks).foldl (Linking.register file.path) declared
  let based := file.declared.foldl Linking.findBase imported
  ({ file with scope := based.scope }, based.components, based.reports)

end ComponentMarkup
