import ComponentMarkup.Path.Basic
import ComponentMarkup.Position

/-!
What can be wrong with a project, and how each problem is worded.
-/

namespace ComponentMarkup

inductive Severity where
  | warning
  | error
deriving DecidableEq, Repr

inductive Problem where
  -- declarations
  | linkOutsideHead (rel : String)
  | linkWithoutTarget (rel : String)
  | nestedDeclaration
  | namelessDeclaration
  | templateCount (name : String) (count : Nat)
  -- scripts
  | untypedScript
  | notAScript (source : String)
  | sourceAndText
  | scriptOutsideEntry
  | secondScriptInFile (path : String)
  | secondScriptInDeclaration
  | inlinePart
  | externalPart (path : String)
  | syntaxError
  -- components in scope
  | duplicateDeclaration (tag : String) (second : Bool)
  | duplicateImport (tag : String) (second : Bool)
  | unknownElement (tag : String)
  -- directives
  | secondCondition
  | malformedInstantiate
  | templateRequired
  | bothDirectives
  | directiveOnTemplateRoot (wrapped : String)
  | malformedIterate (text : String)
  | unknownIndentation (text : String)
  -- attributes
  | nativeHandler (name : String)
  | checkedUnsupported
  | unknownTwoWay (name : String)
  | radioTwice
  | radioWithoutValue
  | shadowedAttribute (name : String)
  -- anything else a host reports
  | reported (severity : Severity) (text : String)
deriving DecidableEq, Repr

namespace Problem

def severity : Problem → Severity
  | .namelessDeclaration | .sourceAndText | .secondScriptInFile _ | .secondScriptInDeclaration
  | .inlinePart | .externalPart _ | .syntaxError | .duplicateDeclaration .. | .duplicateImport ..
  | .bothDirectives | .directiveOnTemplateRoot _ | .malformedIterate _ | .checkedUnsupported
  | .unknownTwoWay _ | .radioTwice | .radioWithoutValue => .error
  | .reported severity _ => severity
  | _ => .warning

/-- The end of a message that comes in two parts, one for each place it is about. -/
def placeMark (second : Bool) : String := if second then " (second location)." else "."

def message : Problem → String
  | .linkOutsideHead rel => "link rel=\"" ++ rel ++ "\" is only valid inside the <head>; ignored."
  | .linkWithoutTarget rel => "link rel=\"" ++ rel ++ "\" is missing the href attribute."
  | .nestedDeclaration => "Nested component definitions are not supported; ignored."
  | .namelessDeclaration =>
      "Missing tag name of the component. Please include an attribute like name=\"your-tag-name\"."
  | .templateCount name count =>
      "the <element name=\"" ++ name ++ "\"> declaration should have exactly one <template> child, found "
        ++ toString count ++ "."
  | .untypedScript =>
      "script tag seems to be missing type=\"module\"; it is treated as a classic script."
  | .notAScript source =>
      "\"" ++ source ++ "\" does not look like a script file; expected a .js, .mjs or .ts extension."
  | .sourceAndText => "script tag has a \"src\" attribute and also has script text."
  | .scriptOutsideEntry => "top-level script code is only allowed in the entry point file; ignored."
  | .secondScriptInFile path => "There should be only one script tag in the file " ++ path ++ "."
  | .secondScriptInDeclaration => "There should be only one script tag per <element>."
  | .inlinePart => "inline script must define a library, not a part of another library."
  | .externalPart path => path ++ " must define a library, not a part of another library."
  | .syntaxError => "syntax error in code unit"
  | .duplicateDeclaration tag second =>
      "duplicate custom element definition for \"" ++ tag ++ "\"" ++ placeMark second
  | .duplicateImport tag second =>
      "imported duplicate custom element definitions for \"" ++ tag ++ "\"" ++ placeMark second
  | .unknownElement tag => "custom element with tag name " ++ tag ++ " not found."
  | .secondCondition =>
      "another condition was already defined on this element; instantiate=\"if ...\" is ignored."
  | .malformedInstantiate =>
      "instantiate attribute should have the form instantiate=\"if <expression>\"."
  | .templateRequired =>
      "template attribute is required when using if, instantiate, or iterate attributes."
  | .bothDirectives => "template cannot have both iteration and conditional attributes."
  | .directiveOnTemplateRoot wrapped =>
      "the template root of a component cannot be conditional or iterated. Wrap it in another template instead, for example: "
        ++ wrapped
  | .malformedIterate text =>
      "template iterate must be of the form: iterate=\"variable in list\", where \"variable\" is your variable name and \"list\" evaluates to a list. Got \""
        ++ text ++ "\"."
  | .unknownIndentation text =>
      "Invalid value for \"indentation\" (\"" ++ text ++ "\"). It should be either \"preserve\" or \"remove\"."
  | .nativeHandler name =>
      "Event handler \"" ++ name ++ "\" will be interpreted as a native inline handler. Use the form on-event-name=\"handler\" for a data-bound event handler."
  | .checkedUnsupported =>
      "checked is only supported in HTML with type=\"radio\" or type=\"checkbox\"."
  | .unknownTwoWay name => "Unknown two-way binding attribute " ++ name ++ ". Ignored."
  | .radioTwice => "Radio buttons cannot have both bind-checked and bind-value. Ignored."
  | .radioWithoutValue =>
      "Radio buttons with bind-value must have a static value attribute, for example value=\"red\"."
  | .shadowedAttribute name =>
      "Duplicate attribute " ++ name ++ ". You should provide either the two-way binding or the attribute itself. The attribute will be ignored."
  | .reported _ text => text

end Problem

/-- A problem, the file it is in and its place there. -/
structure Diagnostic where
  problem : Problem
  file : Path
  position : Position

namespace Diagnostic

def severity (d : Diagnostic) : Severity := d.problem.severity

def message (d : Diagnostic) : String := d.problem.message

end Diagnostic

/-- Diagnostics in the order in which they were reported. -/
abbrev Diagnostics := List Diagnostic

namespace Diagnostics

def ofSeverity (severity : Severity) (ds : Diagnostics) : Diagnostics :=
  ds.filter (·.severity = severity)

def hasErrors (ds : Diagnostics) : Bool := !(ds.ofSeverity .error).isEmpty

end Diagnostics
end ComponentMarkup
