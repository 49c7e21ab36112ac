import SpecSkeleton.Settings

/-!
# Finding settings

Settings stand in a file of their own, or in the tool's table of a project file. They are searched
for from a directory upward, and the first directory that has a say decides: with a settings file,
or with a project file that holds the tool's table or is faulty. Where none has, the defaults hold.
-/

namespace SpecSkeleton

/-- What the search for settings depends on. -/
structure SettingsHost extends Surroundings where
  /-- The level that replaces the one of the settings, unless it is empty. -/
  override : Option String
  readToml : Toml.Reader

namespace SettingsHost

def settingsName : String := "rspec_outline.toml"

def projectName : String := "pyproject.toml"

def readTable (h : SettingsHost) (p : FilePath) : Except SettingsFault Fields :=
  match h.readText p with
  | .error (.file fault) => .error (.refused (.unreadable fault))
  | .error fault => .error (.unreadable fault)
  | .ok text =>
    match h.readToml text with
    | .ok table => .ok table
    | .error (.malformed fault) => .error (.refused (.badToml p text fault))
    | .error (.longNumber digits) => .error (.longNumber (.read digits))

def settingsOf (h : SettingsHost) (data : Value) (source : FilePath) :
    Except SettingsFault Settings :=
  Settings.ofValue h.override data source

/-- The settings of a settings file. -/
def load (h : SettingsHost) (p : FilePath) : Except SettingsFault Settings := do
  h.settingsOf (.table (← h.readTable p)) p

/-- The settings in a project file, if it has the tool's table. -/
def loadProject (h : SettingsHost) (p : FilePath) : Except SettingsFault (Option Settings) := do
  let tools ← ((← h.readTable p).tableAt "tool" p).mapError .refused
  match tools.get? toolKey with
  | none => return none
  | some data => return some (← h.settingsOf data p)

/-- What a directory says: nothing, or the settings or the fault found in it. The project file has
the shorter name, so it can be looked up wherever the settings file can. -/
def verdict? (h : SettingsHost) (directory : FilePath) : Option (Except SettingsFault Settings) :=
  let own := directory.child settingsName
  let project := directory.child projectName
  match h.lookFault? own with
  | some fault => some (.error (.unreadable fault))
  | none =>
    if h.isFile own then some (h.load own)
    else if h.isFile project then
      match h.loadProject project with
      | .ok none => none
      | .ok (some settings) => some (.ok settings)
      | .error fault => some (.error fault)
    else none

/-- The directories that are asked, from that of `start` to the root. -/
def searchPath (h : SettingsHost) (start : FilePath) : List FilePath :=
  let start := start.resolve h.directory
  (if h.isFile start then start.parent else start).selfAndParents

def defaults (h : SettingsHost) : Except SettingsFault Settings :=
  Settings.default.withOverride h.override

/-- Why a search cannot start at a path at all. -/
def startFault? (h : SettingsHost) (start : FilePath) : Option ReadFault :=
  if start.hasNull then some .nullInPath else h.lookFault? (start.resolve h.directory)

def search (h : SettingsHost) (start : FilePath) : Except SettingsFault Settings :=
  match h.startFault? start with
  | some fault => .error (.unreadable fault)
  | none => ((h.searchPath start).findSome? h.verdict?).getD h.defaults

end SettingsHost

end SpecSkeleton
