import ComponentMarkup.Json.Basic
import ComponentMarkup.StaticMarkup
import ComponentMarkup.Workspace

/-!
What a host is told about an annotated file, as JSON.
-/

namespace ComponentMarkup.Report

/-- The name of the event value in rendered handlers. -/
def eventName : String := "e"

def position (p : Position) : Json := .record [("line", .nat p.line), ("column", .nat p.column)]

def path (p : Path) : Json := .text p.text

def severity : Severity → Json
  | .warning => .text "warning"
  | .error => .text "error"

def diagnostic (d : Diagnostic) : Json :=
  .record [("severity", severity d.severity), ("message", .text d.message), ("file", path d.file),
    ("span", position d.position)]

/-! ## Bindings -/

def expr (e : Binding.Expr) : Json :=
  .record [("expr", .text e.text), ("raw", .text e.raw), ("start", .nat e.start),
    ("end", .nat e.stop), ("isFinal", .bool e.isFinal)]

def style : Binding.Style → Json
  | .plain => .text "plain"
  | .css => .text "style"
  | .classTokens => .text "class"
  | .twoWay => .text "twoWay"

def attributeBinding (a : Binding.Attribute) : Json :=
  .record [("bindings", .list expr a.exprs), ("textContent", .option (.list .text) a.literals),
    ("style", style a.style)]

def action : Binding.Action → Json
  | .inline code => .record [("kind", .text "inline"), ("code", .text code)]
  | .assignProperty target property =>
      .record [("kind", .text "assignProperty"), ("target", .text target),
        ("property", .text property)]
  | .assignLiteral target literal =>
      .record
        [("kind", .text "assignLiteral"), ("target", .text target), ("literal", .text literal)]

/-- A field of an action, by its name or by its place in an array. -/
def actionField? (j : Json) (index : Nat) (name : String) : Option String :=
  match j with
  | .object _ => (j.member? name).bind Json.string?
  | .array items => items[index]?.bind Json.string?
  | _ => none

/-- An array holds the fields of its action and no more. -/
def hasFields (j : Json) (count : Nat) : Bool :=
  match j with
  | .array items => items.length = count
  | _ => true

def action? (j : Json) : Option Binding.Action := do
  let kind ← actionField? j 0 "kind"
  if kind = "inline" && hasFields j 2 then
    return .inline (← actionField? j 1 "code")
  else if kind = "assignProperty" && hasFields j 3 then
    return .assignProperty (← actionField? j 1 "target") (← actionField? j 2 "property")
  else if kind = "assignLiteral" && hasFields j 3 then
    return .assignLiteral (← actionField? j 1 "target") (← actionField? j 2 "literal")
  else none

def handler (h : Binding.Handler) : Json :=
  .record [("name", .text h.event), ("action", action h.action),
    ("code", .text (h.action.render eventName))]

/-- A map as a list of pairs, in its order. -/
def pairs {α : Type} (f : α → Json) (m : OrderedMap String α) : Json :=
  .list (fun (key, value) => .array [.text key, f value]) m.entries

def directive : Directive → Json
  | .conditional condition =>
      .record [("kind", .text "conditional"), ("condition", .text condition)]
  | .iteration variableName items =>
      .record
        [("kind", .text "iteration"), ("variable", .text variableName), ("items", .text items)]

/-! ## Files -/

def unit (u : CodeUnit) : Json :=
  .record [("path", path u.path), ("source", .text u.source), ("start", position u.start),
    ("partOf", .option .text u.partOf), ("declarations", .list .text u.declarations)]

def kindName : AnnotatedKind → String
  | .element _ => "element"
  | .structural .. => "structural"
  | .text _ => "text"

def directive? : AnnotatedKind → Option Directive
  | .structural directive .. => some directive
  | _ => none

def binding? : AnnotatedKind → Option Binding.Expr
  | .text binding => binding
  | _ => none

/-- The members of an annotation other than its children. Empty maps are left out. -/
def annotatedNode (file : SourceFile) (components : ComponentTable) (a : AnnotatedNode) :
    List (String × Json) :=
  let bindings := a.bindings?.getD {}
  [("kind", .text (kindName a.kind)),
    ("tag", .option .text (file.document.tag? a.source)),
    ("identifier", .option .text a.identifier),
    ("hasDataBinding", .bool a.hasDataBinding),
    ("hasQuery", .bool a.hasQuery),
    ("isRoot", .bool a.isRoot),
    ("childrenCreatedInCode", .bool a.buildsChildren),
    ("stripAttributes", .list .text a.stripped)] ++
  (if bindings.attributes.isEmpty then []
    else [("attributes", pairs attributeBinding bindings.attributes)]) ++
  (if bindings.handlers.isEmpty then []
    else [("events", pairs (.list handler) bindings.handlers)]) ++
  [("component", .option (fun id => .text (components.tag id)) a.component?),
    ("directive", .option directive (directive? a.kind)),
    ("text", .option .text (file.document.text? a.source)),
    ("binding", .option expr (binding? a.kind))]

def annotatedNodes (file : SourceFile) (components : ComponentTable) : Forest → List Json
  | .nil => []
  | .cons id children rest =>
      let own := match file.annotations.get? id with
        | some a =>
            [.record (annotatedNode file components a ++
              [("children", .array (annotatedNodes file components children))])]
        | none => []
      own ++ annotatedNodes file components rest

def component (components : ComponentTable) (c : Component) : Json :=
  .record [("tagName", .text c.tag), ("extendsTag", .text c.extendsTag),
    ("extends", .option (fun id => .text (components.tag id)) c.base),
    ("hasConflict", .bool c.hasConflict), ("code", .option unit c.code),
    ("usedComponents", .list (fun id => .text (components.tag id)) c.used)]

def declaringFile (components : ComponentTable) (id : ComponentId) : Json :=
  .option (fun c => path c.file) (components.get? id)

def file (components : ComponentTable) (f : SourceFile) : Json :=
  .record [("path", path f.path), ("isEntryPoint", .bool f.isEntry),
    ("components", .list (component components) (f.declared.filterMap components.get?)),
    ("scope", pairs (declaringFile components) f.scope),
    ("componentLinks", .list path f.componentLinks),
    ("stylesheetLinks", .list path f.stylesheetLinks),
    ("code", .option unit f.code),
    ("usedComponents", .list (fun id => .text (components.tag id)) f.used),
    ("root", ((annotatedNodes f components f.annotations.forest).head?).getD .null),
    ("html", .text f.staticMarkup)]

def files (w : Workspace) : Json := .list (fun (_, f) => file w.components f) w.files.entries

end ComponentMarkup.Report
