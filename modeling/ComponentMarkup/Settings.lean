import ComponentMarkup.Json.Parse
import ComponentMarkup.Path.Basic

/-!
What a host can choose about a run.
-/

namespace ComponentMarkup

structure Settings where
  /-- The directory that `package:` links resolve against. -/
  packageRoot : Path := ⟨"packages"⟩
  /-- Whether text keeps its blanks where no element says otherwise. -/
  keepBlanks : Bool := false
  /-- Whether files may be read side by side, which no result depends on. -/
  parallel : Bool := true

namespace Settings

def ofJson? (j : Json) : Option Settings := do
  match ← j.fields? ["packageRoot", "preserveIndentation", "parallelDiscovery"] with
  | [packageRoot, keepBlanks, parallel] =>
      return {
        packageRoot := ← Json.fieldOr? ⟨"packages"⟩ (fun j => j.string?.map Path.mk) packageRoot
        keepBlanks := ← Json.fieldOr? false Json.bool? keepBlanks
        parallel := ← Json.fieldOr? true Json.bool? parallel }
  | _ => none

/-- What keeps settings from being read. -/
inductive Failure where
  | unreadable
  | malformed
deriving DecidableEq, Repr

def parse (text : String) : Except Failure Settings :=
  match (Json.parse? text).bind ofJson? with
  | some settings => .ok settings
  | none => .error .malformed

/-- Settings from the contents of a file, which are none when it cannot be read. -/
def load (contents : Option String) : Except Failure Settings :=
  match contents with
  | some text => parse text
  | none => .error .unreadable

def toJson (s : Settings) : Json :=
  .record [("packageRoot", .text s.packageRoot.text), ("preserveIndentation", .bool s.keepBlanks),
    ("parallelDiscovery", .bool s.parallel)]

end Settings
end ComponentMarkup
