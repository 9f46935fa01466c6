import Wab.Archive.Obstacle
import Wab.Bundle.NameGenerator
import Wab.Value

/-!
# Configuration

What a deployer can configure once for all archives. The options come from tables of named values
and have names of the form `section:name`, cut at the first colon.

* **`Config`**: the configuration, with its defaults.
* **`Config.ofOptions`**: the configuration that options give.
* **`Config.flatten`**: the options of a table of tables.
* **`Config.ofTables`**: the configuration of a table of tables and further options.
-/

namespace Wab

/-- What is configured. -/
structure Config where
  /-- What generated symbolic names begin with. -/
  nameStem : Text := defaultNameStem
  /-- The packages that a bundle needs if nobody says otherwise. -/
  importPackage : Text :=
    ("javax.servlet; javax.servlet.http; version=2.5, javax.servlet.jsp; javax.servlet.jsp.tagext;"
      ++ "javax.el; javax.servlet.jsp.el; version=2.1")
  /-- The version of the bundle format. -/
  manifestVersion : Text := "2"
  deriving DecidableEq, Repr

/-- Why there is no configuration. -/
inductive ConfigError where
  /-- There is no option of this name. -/
  | unknownOption (key : Text)
  /-- The value of an option is not a text but of this type. -/
  | notText (key : Text) (typeName : String)
  /-- What stands for a section is not a table but of this type. -/
  | notTable (name : Text) (typeName : String)
  /-- The file cannot be read. -/
  | unreadableFile (file : Text) (cause : FileError)
  /-- The file does not have the form of a configuration. -/
  | malformed (file : Text)
  /-- The run ends. -/
  | fault (cause : Fault)
  deriving DecidableEq, Repr

/-- The error in words. -/
def ConfigError.message : ConfigError → String
  | unknownOption key => s!"unknown option {Text.quoted key}"
  | notText key typeName => s!"option {Text.quoted key} expects a string, got {typeName}"
  | notTable name typeName => s!"expected a [{Text.str name}] table, got a {typeName}"
  | unreadableFile file cause => s!"could not read {Text.str file}: {cause.message}"
  | malformed file => s!"{Text.str file}: invalid TOML"
  | fault cause => cause.message

namespace Config

/-- An option. -/
inductive Field where
  /-- What generated symbolic names begin with. -/
  | nameStem
  /-- The packages that a bundle needs. -/
  | importPackage
  /-- The version of the bundle format. -/
  | manifestVersion
  deriving DecidableEq, Repr

/-- The section of the options. -/
def sectionName : Text := "webbundle"

/-- The name of an option in its section. -/
def Field.name : Field → Text
  | nameStem => "symbolicNamePrefix"
  | importPackage => "importPackage"
  | manifestVersion => "manifestVersion"

/-- All options. -/
def Field.all : List Field := [nameStem, importPackage, manifestVersion]

/-- The name of an option with its section. -/
def key (sectionName name : Text) : Text := sectionName ++ .scalar ':' :: name

/-- The option of a name with its section. -/
def field? (key : Text) : Option Field :=
  match Text.cut? [':'] key with
  | some (before, name) =>
    if before = sectionName then Field.all.find? fun f => f.name == name else none
  | none => none

/-- Sets an option. -/
def set (c : Config) (value : Text) : Field → Config
  | .nameStem => { c with nameStem := value }
  | .importPackage => { c with importPackage := value }
  | .manifestVersion => { c with manifestVersion := value }

/-- Sets the option of a name to a value of any type. -/
def setOption (c : Config) (key : Text) (value : Value) : Except ConfigError Config :=
  match field? key with
  | none => .error (.unknownOption key)
  | some field =>
    match value.text? with
    | none => .error (.notText key value.typeName)
    | some text => .ok (c.set text field)

/-- The configuration that options give. -/
def ofOptions (options : Dictionary Value) : Except ConfigError Config :=
  options.foldlM (fun c (key, value) => c.setOption key value) {}

/-- Adds the options of a section. -/
def addSection (options : Dictionary Value) (name : Text) (value : Value) :
    Except ConfigError (Dictionary Value) :=
  match value.table? with
  | none => .error (.notTable name value.typeName)
  | some fields => .ok (options.insertAll (fields.map fun (n, v) => (key name n, v)))

/-- The options of a table of tables. -/
def flatten (tables : Dictionary Value) : Except ConfigError (Dictionary Value) :=
  tables.foldlM (fun options (name, value) => addSection options name value) []

/-- The configuration of a table of tables and options that take the place of its own. -/
def ofTables (tables overrides : Dictionary Value) : Except ConfigError Config := do
  ofOptions (Dictionary.insertAll (← flatten tables) overrides)

/-! ## Readings -/

/-- Every option is found under its name. -/
theorem field?_key (f : Field) : field? (key sectionName f.name) = some f := by
  cases f <;> decide +kernel

end Config

end Wab
