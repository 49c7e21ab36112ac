import SpecSkeleton.Command.Locate
import SpecSkeleton.Command.Option
import SpecSkeleton.Command.Scan
import SpecSkeleton.Command.Show
import SpecSkeleton.Text.Numeral

/-!
# The command line

Options for all commands come first: the settings file and the level of the log, or a question about
the program, which is answered before anything else. Then come the command and its own options and
arguments. A command line is checked from left to right: its first part, the name of the command,
the level, and then what the command takes.
-/

namespace SpecSkeleton.Command

/-- What the options before the command say. -/
inductive GlobalOption where
  | help
  | version
  | settings (path : String)
  | level (name : String)
  deriving DecidableEq, Repr

def globalOptions : OptionTable GlobalOption where
  long := [("help", .flag .help), ("version", .flag .version), ("config", .valued .settings),
    ("log-level", .valued .level)]
  short := [('v', .flag .version), ('c', .valued .settings)]
  mixed := false

inductive ShowOption where
  | help
  | json
  | hooks (on : Bool)
  | shared (on : Bool)
  deriving DecidableEq, Repr

def showOptions : OptionTable ShowOption where
  long := [("help", .flag .help), ("json", .flag .json), ("hooks", .flag (.hooks true)),
    ("no-hooks", .flag (.hooks false)), ("lets", .flag (.shared true)),
    ("no-lets", .flag (.shared false))]
  short := []
  mixed := true

/-- The options of a command that has none of its own; what is said asks for help. -/
def helpOnly (mixed : Bool) : OptionTable Unit :=
  ⟨[("help", .flag ())], [], mixed⟩

/-- The texts of help are no part of this library. -/
def helpOutcome : Outcome :=
  .printing ""

/-- What a command works with. -/
structure CommandContext where
  rule : NameRule
  host : SettingsHost
  /-- The settings file that is given. -/
  settingsPath : Option FilePath

/-- The settings that are given, or those found from a directory upward. -/
def CommandContext.settings (c : CommandContext) (start : FilePath) :
    Except SettingsFault Settings :=
  match c.settingsPath with
  | some path => c.host.load path
  | none => c.host.search start

def ShowRequest.ofOptions (path : FilePath) (said : List ShowOption) : ShowRequest where
  path := path
  asJson := said.contains .json
  hooks := (said.filterMap fun | .hooks on => some on | _ => none).getLast?
  shared := (said.filterMap fun | .shared on => some on | _ => none).getLast?

def runShow (c : CommandContext) (words : List String) : Outcome :=
  match showOptions.read words with
  | none => .usage
  | some (said, arguments) =>
    if said.contains .help then helpOutcome
    else
      match arguments with
      | [path] =>
        let path := FilePath.ofString path
        showOutline c.rule c.host (c.settings path.parent) (.ofOptions path said)
      | _ => .usage

def runScan (c : CommandContext) (words : List String) : Outcome :=
  match (helpOnly true).read words with
  | none => .usage
  | some (_ :: _, _) => helpOutcome
  | some ([], []) => scan c.rule c.host (c.settings (.ofString ".")) (.ofString ".")
  | some ([], [root]) => scan c.rule c.host (c.settings (.ofString root)) (.ofString root)
  | some ([], _) => .usage

def runLocate (c : CommandContext) (words : List String) : Outcome :=
  match (helpOnly true).read words with
  | none => .usage
  | some (_ :: _, _) => helpOutcome
  | some ([], [path, line]) =>
    let path := FilePath.ofString path
    match Text.numeral line with
    | .error _ => .usage
    | .ok n => if n < 1 then .usage else locate c.rule c.host (c.settings path.parent) path n.toNat
  | some ([], _) => .usage

/-- Says that nothing is missing for a session with an editor. -/
def checkOutcome : Outcome :=
  .printing <| String.join <|
    ["pygls:        unknown", "lsprotocol:   unknown", "",
      "All LSP dependencies installed."].map Outcome.line

def runEditorCommand (words : List String) : Outcome :=
  match (helpOnly false).read words with
  | none => .usage
  | some (_ :: _, _) => helpOutcome
  | some ([], "check" :: words) =>
    match (helpOnly true).read words with
    | some ([], []) => checkOutcome
    | some (_ :: _, _) => helpOutcome
    | _ => .usage
  | some ([], _) => .usage

inductive CommandName where
  | showOutline
  | scan
  | locate
  | editor
  deriving DecidableEq, Repr

def CommandName.ofWord? : String → Option CommandName
  | "show" => some .showOutline
  | "scan" => some .scan
  | "locate" => some .locate
  | "lsp" => some .editor
  | _ => none

def CommandName.run (name : CommandName) (c : CommandContext) (words : List String) : Outcome :=
  match name with
  | .showOutline => runShow c words
  | .scan => runScan c words
  | .locate => runLocate c words
  | .editor => runEditorCommand words

/-- The levels that the command line knows, with their other names and the one below all. -/
def levelWords : List String :=
  ["CRITICAL", "FATAL", "ERROR", "WARN", "WARNING", "INFO", "DEBUG", "NOTSET"]

/-- Goes on if the level that is given is known; an empty one counts as not given. -/
def checkingLevel (level : Option String) (next : Outcome) : Outcome :=
  let level := Text.upper (level.getD "")
  if level.isEmpty || levelWords.contains level then next
  else .failing s!"unknown log level {Text.quoted level}"

def programVersion : String := "0.1.0"

def aboutOutcome : Outcome :=
  ⟨.code 0,
    .about [s!"rspec-outline version {programVersion}", "", "Environment:"]
      ["", "Features:", "  LSP Server:    ✓ Available"],
    "", []⟩

/-- What the options say that is answered before anything else. -/
def answeredFirst? (said : List GlobalOption) : Option Outcome :=
  said.findSome? fun
    | .help => some helpOutcome
    | .version => some aboutOutcome
    | _ => none

/-- Runs a command line. -/
def run (rule : NameRule) (h : SettingsHost) (words : List String) : Outcome :=
  match globalOptions.read words with
  | none => .usage
  | some (said, rest) =>
    let settings := (said.filterMap fun | .settings path => some path | _ => none).getLast?
    let level := (said.filterMap fun | .level name => some name | _ => none).getLast?
    match answeredFirst? said with
    | some outcome => outcome
    | none =>
      if settings.any (·.contains '\x00') then .crash (.reading .nullInPath)
      else if settings.any fun path => !h.isFile (.ofString path) then .usage
      else
        match rest with
        | [] => .usage
        | name :: words =>
          match CommandName.ofWord? name with
          | none => .usage
          | some name =>
            checkingLevel level <| name.run ⟨rule, h, settings.map FilePath.ofString⟩ words

end SpecSkeleton.Command
