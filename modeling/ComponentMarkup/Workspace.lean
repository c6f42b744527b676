import ComponentMarkup.Annotated.Walk
import ComponentMarkup.Declaration
import ComponentMarkup.Linking
import ComponentMarkup.Settings

/-!
A workspace holds the files and scripts of one run. Files are declared, then linked, then
annotated; every step can be repeated and goes on from what is there.
-/

namespace ComponentMarkup

/-- A parsed document with the path it came from. -/
structure Source where
  path : Path
  document : Document
  isEntry : Bool := false

structure Workspace where
  settings : Settings := {}
  files : OrderedMap Path SourceFile := {}
  components : ComponentTable := {}
  scripts : OrderedMap Path CodeUnit := {}
  /-- The next number for a generated identifier. -/
  counter : UInt64 := 0

namespace Workspace

/-- Reads a script file, so that components and files can take their code from it. -/
def addScript (w : Workspace) (path : Path) (source : String) : Workspace × Diagnostics :=
  let (unit, reports) := CodeUnit.read path source ⟨1, 1⟩
  ({ w with scripts := w.scripts.insert path unit }, reports)

/-! ## Declaring -/

/-- Gives components their numbers, in order. -/
def registerAll (t : ComponentTable) : List Component → List ComponentId × ComponentTable
  | [] => ([], t)
  | c :: rest =>
      let (id, t) := t.add c
      let (ids, t) := registerAll t rest
      (id :: ids, t)

def declare (w : Workspace) (source : Source) : Workspace × Diagnostics :=
  let found := Declaration.read
    { path := source.path
      isEntry := source.isEntry
      document := source.document
      packageRoot := w.settings.packageRoot }
  let (declared, components) := registerAll w.components found.components
  let file : SourceFile :=
    { path := source.path
      isEntry := source.isEntry
      document := source.document
      declared
      componentLinks := found.componentLinks
      stylesheetLinks := found.stylesheetLinks
      code := found.code
      external := found.external }
  ({ w with files := w.files.insert source.path file, components }, found.reports)

/-! ## Linking and annotating -/

def link (w : Workspace) (path : Path) : Workspace × Diagnostics :=
  match w.files.find? path with
  | none => (w, [])
  | some file =>
      let (file, components, reports) := linkFile w.files w.scripts w.components file
      ({ w with files := w.files.insert path file, components }, reports)

def annotate (w : Workspace) (path : Path) : Workspace × Diagnostics :=
  match w.files.find? path with
  | none => (w, [])
  | some file =>
      let pass := annotateFile w.settings.keepBlanks
        { file, components := w.components, counter := w.counter }
      ({ w with
          files := w.files.insert path pass.file
          components := pass.components
          counter := pass.counter },
        pass.reports)

/-! ## Whole workspaces -/

/-- Does a step for each item in turn and collects what is reported. -/
def each {α : Type} (step : Workspace → α → Workspace × Diagnostics) (w : Workspace) :
    List α → Workspace × Diagnostics
  | [] => (w, [])
  | item :: rest =>
      let (w, reports) := step w item
      let (w, more) := each step w rest
      (w, reports ++ more)

def declareAll (w : Workspace) (sources : List Source) : Workspace × Diagnostics :=
  w.each declare sources

def linkAll (w : Workspace) : Workspace × Diagnostics := w.each link w.files.keys

def annotateAll (w : Workspace) : Workspace × Diagnostics := w.each annotate w.files.keys

def run (w : Workspace) (sources : List Source) : Workspace × Diagnostics :=
  let (w, declared) := w.declareAll sources
  let (w, linked) := w.linkAll
  let (w, annotated) := w.annotateAll
  (w, declared ++ linked ++ annotated)

/-! ## Questions and choices -/

/-- The component that a tag stands for in a file. -/
def lookup (w : Workspace) (path : Path) (tag : String) : Option ComponentId := do
  (← w.files.find? path).scope.find? tag

/-- Sets how text is treated by later passes. -/
def keepBlanks (w : Workspace) (keep : Bool) : Workspace :=
  { w with settings := { w.settings with keepBlanks := keep } }

def drawNumber (w : Workspace) : UInt64 × Workspace :=
  (w.counter, { w with counter := w.counter + 1 })

end Workspace
end ComponentMarkup
