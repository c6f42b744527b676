import ComponentMarkup.Html.Reading
import ComponentMarkup.Report

/-!
A whole run described as JSON, answered as JSON.
-/

namespace ComponentMarkup

structure FileInput where
  path : Path
  markup : String
  isEntry : Bool

structure ScriptInput where
  path : Path
  source : String

structure Request where
  settings : Settings
  files : List FileInput
  scripts : List ScriptInput

def FileInput.ofJson? (j : Json) : Option FileInput := do
  match ← j.fields? ["path", "html", "entryPoint"] with
  | [some path, some markup, isEntry] =>
      return {
        path := ⟨← path.string?⟩
        markup := ← markup.string?
        isEntry := ← Json.fieldOr? false Json.bool? isEntry }
  | _ => none

def ScriptInput.ofJson? (j : Json) : Option ScriptInput := do
  match ← j.fields? ["path", "source"] with
  | [some path, some source] => return { path := ⟨← path.string?⟩, source := ← source.string? }
  | _ => none

def FileInput.toSource (file : FileInput) : Source :=
  { path := file.path, document := .ofMarkup file.markup, isEntry := file.isEntry }

namespace Request

def ofJson? (j : Json) : Option Request := do
  match ← j.fields? ["options", "files", "scripts"] with
  | [settings, some files, scripts] =>
      return {
        settings := ← Json.fieldOr? {} Settings.ofJson? settings
        files := ← files.listOf? FileInput.ofJson?
        scripts := ← Json.fieldOr? [] (Json.listOf? ScriptInput.ofJson?) scripts }
  | _ => none

def parse? (text : String) : Option Request := (Json.parse? text).bind ofJson?

/-- Adds the scripts and runs over the files. -/
def run (r : Request) : Workspace × Diagnostics :=
  let (w, scripted) := Workspace.each (fun w script => w.addScript script.path script.source)
    { settings := r.settings } r.scripts
  let (w, reports) := w.run (r.files.map FileInput.toSource)
  (w, scripted ++ reports)

/-- The answer to a request; none when the text is no request. -/
def answer? (text : String) : Option String :=
  (parse? text).map fun r =>
    let (w, reports) := r.run
    Json.write
      (.record [("files", Report.files w), ("diagnostics", .list Report.diagnostic reports)])

end Request
end ComponentMarkup
