/-!
Script modules as trees, as far as the names they declare depend on it.
-/

namespace ComponentMarkup.Script

mutual

/-- What a declaration binds. -/
inductive Pattern where
  | name (text : String)
  | object (parts : Parts)
  | array (parts : Parts)
  /-- A pattern that falls back on a default value. -/
  | withDefault (target : Pattern)

/-- The parts of an object or array pattern; a hole skips an item. -/
inductive Parts where
  | done
  | hole (rest : Parts)
  | item (pattern : Pattern) (rest : Parts)
  | spread (pattern : Pattern)

end

instance : Inhabited Pattern := ⟨.name ""⟩

deriving instance DecidableEq for Pattern, Parts

/-- Declarations; `silent` are those that bind no value or bind it elsewhere. -/
inductive Declaration where
  | bindings (patterns : List Pattern)
  | function (name : Option String)
  | classType (name : Option String)
  | silent
deriving DecidableEq

inductive Statement where
  /-- A string that stands alone, as it is spelled between its quotes. -/
  | directive (text : String)
  | declaration (d : Declaration)
  | exportNamed (d : Declaration)
  | exportDefault (d : Declaration)
  | other
deriving DecidableEq

/-- The directives a module opens with, and the statements behind them. -/
structure Module where
  directives : List String
  body : List Statement
deriving DecidableEq

mutual

/-- The names a pattern binds, in order. A part that falls back on a default value is not looked
into. -/
def Pattern.names : Pattern → List String
  | .name text => [text]
  | .object parts => parts.names
  | .array parts => parts.names
  | .withDefault _ => []

def Parts.names : Parts → List String
  | .done => []
  | .hole rest => rest.names
  | .item pattern rest => pattern.names ++ rest.names
  | .spread pattern => pattern.names

end

mutual

/-- All names a pattern binds, in order, also where a part falls back on a default value. -/
def Pattern.bound : Pattern → List String
  | .name text => [text]
  | .object parts => parts.bound
  | .array parts => parts.bound
  | .withDefault target => target.bound

def Parts.bound : Parts → List String
  | .done => []
  | .hole rest => rest.bound
  | .item pattern rest => pattern.bound ++ rest.bound
  | .spread pattern => pattern.bound

end

def Declaration.names : Declaration → List String
  | .bindings patterns => patterns.flatMap Pattern.names
  | .function name => name.toList
  | .classType name => name.toList
  | .silent => []

/-- The names that a declaration gives to the module that exports it. -/
def Declaration.bound : Declaration → List String
  | .bindings patterns => patterns.flatMap Pattern.bound
  | .function name => name.toList
  | .classType name => name.toList
  | .silent => []

/-- The names a statement declares; a default export declares none of its own. -/
def Statement.names : Statement → List String
  | .declaration d => d.names
  | .exportNamed d => d.names
  | _ => []

def Module.names (m : Module) : List String := m.body.flatMap Statement.names

end ComponentMarkup.Script
