import LineShell.Log.Logger
import LineShell.Machine
import LineShell.Settings.EnvFile

/-!
# Settings

What the shell is told before it starts. Each setting has a value of its own in each of four
layers; the first layer that has one settles it:

1. what the caller gives, which is taken as it is;
2. the environment, in variables named `TINYSH_` and the setting, in letters of either case;
3. the env file of the working directory, by the same names;
4. the default.

The log profile that the layers below the caller agree on has to exist, whatever the caller gives.
-/

namespace LineShell

/-! ## 1. Settings and layers -/

structure Settings where
  prompt : String := "$ "
  startDirectory : Path := .root
  searchPath : Option String := none
  home : Option Path := none
  logLevel : String := Logger.defaultLevel
  logProfile : String := Logger.defaultProfile
  deriving DecidableEq

/-- One layer: a text for some of the settings. -/
structure Layer where
  prompt : Option String := none
  startDirectory : Option String := none
  searchPath : Option String := none
  home : Option String := none
  logLevel : Option String := none
  logProfile : Option String := none
  deriving DecidableEq, Repr

namespace Layer

def or (upper lower : Layer) : Layer where
  prompt := upper.prompt.or lower.prompt
  startDirectory := upper.startDirectory.or lower.startDirectory
  searchPath := upper.searchPath.or lower.searchPath
  home := upper.home.or lower.home
  logLevel := upper.logLevel.or lower.logLevel
  logProfile := upper.logProfile.or lower.logProfile

/-- A name in lower-case letters of ASCII; the names of variables have no others. -/
def lower (s : String) : String := s.map Char.toLower

/-- The value of the variable of this name in either case; the last one counts, and a variable
    without a value is none. -/
def lookup? (bindings : List EnvFile.Binding) (name : String) : Option String :=
  ((bindings.reverse.find? fun b => lower b.1 = name).bind (·.2))

def ofBindings (bindings : List EnvFile.Binding) : Layer where
  prompt := lookup? bindings "tinysh_prompt"
  startDirectory := lookup? bindings "tinysh_start_dir"
  searchPath := lookup? bindings "tinysh_search_path"
  home := lookup? bindings "tinysh_home"
  logLevel := lookup? bindings "tinysh_log_level"
  logProfile := lookup? bindings "tinysh_log_profile"

def ofEnvironment (env : Environment) : Layer := ofBindings (env.map fun v => (v.1, some v.2))

/-- The settings of a layer over the defaults. -/
def settings (l : Layer) : Settings :=
  let default : Settings := {}
  { prompt := l.prompt.getD default.prompt
    startDirectory := (l.startDirectory.map Path.ofText).getD default.startDirectory
    searchPath := l.searchPath
    home := l.home.map Path.ofText
    logLevel := l.logLevel.getD default.logLevel
    logProfile := l.logProfile.getD default.logProfile }

end Layer

/-! ## 2. Loading -/

inductive SettingsError where
  | unknownProfile (profile : String)
  deriving DecidableEq, Repr

/-- The setting that is not taken. -/
def SettingsError.setting : SettingsError → String
  | .unknownProfile _ => "log_profile"

/-- What is wrong with it: it is none of the values there are. -/
def SettingsError.kind : SettingsError → String
  | .unknownProfile _ => "literal_error"

namespace Settings

def profiles : List String := ["default", "rich"]

/-- The settings of the layers: what the caller gives, the environment, and an env file. -/
def load (given environment file : Layer) : Except SettingsError Settings :=
  let told := environment.or file
  if profiles.contains told.settings.logProfile then .ok (given.or told).settings
  else .error (.unknownProfile told.settings.logProfile)

def envFileName : String := ".env"

end Settings

/-- The text of a regular file, if there is one and it is a text. -/
def Machine.readText? (m : Machine) (path : String) : Option String :=
  match m.files.findPlace m.place path with
  | .error _ => none
  | .ok p =>
    match m.files.at? p with
    | some (.file f) => String.fromUTF8? ⟨f.content.toArray⟩
    | _ => none

def Machine.envFile (m : Machine) : EnvFile :=
  .parse ((m.readText? Settings.envFileName).getD "")

/-- The settings of the shell on a machine: what the caller gives, over the environment, over the
    env file in the working directory. -/
def Settings.loadOn (m : Machine) (given : Layer) : Except SettingsError Settings :=
  Settings.load given (.ofEnvironment m.environment)
    (.ofBindings (m.envFile.values m.environment.get?))

end LineShell
