import SpecSkeleton.Diagnostic
import SpecSkeleton.File.Tree
import SpecSkeleton.Level
import SpecSkeleton.Text.Upper
import SpecSkeleton.Toml.Document
import SpecSkeleton.Value.Shown

/-!
# Settings

Settings are read from an untyped table. The checks run in a fixed order and the first that fails is
reported: the table itself, its parts `outline` and `logging`, the suffix of spec files, their
directories, the two switches, and the log level. A level override from outside is checked last; it
replaces the level and nothing else. Keys without a meaning are passed over. A level whose text
would hold a number longer than the limit is no matter of refusal but a fault of its own.
-/

namespace SpecSkeleton

structure Settings where
  specSuffix : String := "_spec.rb"
  specDirs : List String := ["spec/"]
  showHooks : Bool := true
  showLets : Bool := true
  level : Level := .info
  /-- The file the settings were read from. -/
  source : Option FilePath := none
  deriving DecidableEq, Repr

def Settings.default : Settings := {}

/-- Why settings are refused; `source` is what the refused part was read from. -/
inductive SettingsRefusal where
  | noTable (source : FilePath) (key : String)
  | badSuffix (source : FilePath)
  | badDirs (source : FilePath)
  | badSwitch (source : FilePath) (key : String)
  | unknownLevel (source : FilePath) (value : Value)
  | unreadable (fault : FileFault)
  | badToml (source : FilePath) (text : String) (fault : Toml.Fault)

namespace SettingsRefusal

def levelNames : String :=
  ", ".intercalate (Level.all.map Level.name)

def diagnostic : SettingsRefusal → Diagnostic
  | noTable source key => .plain s!"{source}: [{key}] must be a table"
  | badSuffix source => .plain s!"{source}: outline.spec_suffix must be a non-empty string"
  | badDirs source => .plain s!"{source}: outline.spec_dirs must be a list of strings"
  | badSwitch source key => .plain s!"{source}: outline.{key} must be true or false"
  | unknownLevel source value =>
    .plain s!"{source}: unknown log level {value.quoted} (expected one of {levelNames})"
  | unreadable fault => .plain s!"Cannot read {fault.path}: {fault.message}"
  | badToml source text fault =>
    match fault.line with
    | none => .plain s!"{source}: invalid TOML: {fault.message}"
    | some line =>
      if line = 0 then .plain s!"{source}: invalid TOML: {fault.message}"
      else
        .about s!"Invalid TOML: {fault.message}" (some source) (some line) fault.column
          (some (excerptEndingAt text line))

def message (f : SettingsRefusal) : String :=
  f.diagnostic.text

end SettingsRefusal

/-- Why no settings can be had: they are refused, a file that should hold them is no text, or a
number in them is too long. -/
inductive SettingsFault where
  | refused (refusal : SettingsRefusal)
  | unreadable (fault : ReadFault)
  | longNumber (number : LongNumber)

def SettingsFault.message : SettingsFault → String
  | refused refusal => refusal.message
  | unreadable fault => fault.message
  | longNumber number => number.message

/-- The key of a tool's own table in a project file. -/
def toolKey : String := "rspec-outline"

/-- The name of the variable that overrides the level, as faults of it are reported. -/
def levelVariable : FilePath := .ofString "RSPEC_OUTLINE_LOG_LEVEL"

/-- The level a value names once its text is in upper case. -/
def Level.ofValue (value : Value) (source : FilePath) : Except SettingsFault Level := do
  let text ← value.written.mapError .longNumber
  match Level.ofName? (Text.upper text) with
  | some level => return level
  | none => .error (.refused (.unknownLevel source value))

/-- A part of a table that is a table; empty if it is missing. -/
def Fields.tableAt (fields : Fields) (key : String) (source : FilePath) :
    Except SettingsRefusal Fields :=
  match fields.get? key with
  | none => .ok []
  | some (.table inner) => .ok inner
  | some _ => .error (.noTable source key)

/-- The texts of a list that holds nothing else. -/
def texts? : List Value → Option (List String)
  | [] => some []
  | .text s :: rest => (texts? rest).map (s :: ·)
  | _ => none

namespace Settings

def suffixOf (fields : Fields) (source : FilePath) : Except SettingsRefusal String :=
  match fields.get? "spec_suffix" with
  | none => .ok default.specSuffix
  | some (.text s) => if s.isEmpty then .error (.badSuffix source) else .ok s
  | some _ => .error (.badSuffix source)

def dirsOf (fields : Fields) (source : FilePath) : Except SettingsRefusal (List String) :=
  match fields.get? "spec_dirs" with
  | none => .ok default.specDirs
  | some (.list items) =>
    match texts? items with
    | some dirs => .ok dirs
    | none => .error (.badDirs source)
  | some _ => .error (.badDirs source)

/-- A switch, on if it is missing. -/
def switchOf (fields : Fields) (key : String) (source : FilePath) : Except SettingsRefusal Bool :=
  match fields.get? key with
  | none => .ok true
  | some (.bool b) => .ok b
  | some _ => .error (.badSwitch source key)

/-- The settings that a table gives but for the level, and the part that may give the level. -/
def partsOf (fields : Fields) (source : FilePath) : Except SettingsRefusal (Settings × Fields) := do
  let outline ← Fields.tableAt fields "outline" source
  let logging ← Fields.tableAt fields "logging" source
  let specSuffix ← suffixOf outline source
  let specDirs ← dirsOf outline source
  let showHooks ← switchOf outline "show_hooks" source
  let showLets ← switchOf outline "show_lets" source
  return (⟨specSuffix, specDirs, showHooks, showLets, default.level, some source⟩, logging)

/-- Replaces the level by an override that is not empty. -/
def withOverride (s : Settings) : Option String → Except SettingsFault Settings
  | none => .ok s
  | some override =>
    if override.isEmpty then .ok s
    else (Level.ofValue (.text override) levelVariable).map fun level => { s with level }

def ofValue (override : Option String) (data : Value) (source : FilePath) :
    Except SettingsFault Settings :=
  match data with
  | .table fields => do
    let (given, logging) ← (partsOf fields source).mapError .refused
    let level ← Level.ofValue ((logging.get? "level").getD (.text default.level.name)) source
    withOverride { given with level } override
  | _ => .error (.refused (.noTable source s!"tool.{toolKey}"))

end Settings

end SpecSkeleton
