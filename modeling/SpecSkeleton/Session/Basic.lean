import SpecSkeleton.Session.Request
import SpecSkeleton.Session.Workspace
import SpecSkeleton.Settings.Search
import SpecSkeleton.Updater.Basic

/-!
# Editor sessions

A session keeps the open documents, the settings of the workspace and an updater, whose queue it
empties in every turn, so that the outline follows the active document. A turn answers one request.
A fault is the answer then, and nothing is shown or sent.

Documents that name a file go by its path. One that names no file goes by its URI when it is opened
or closed, and by the path part of its URI otherwise.
-/

namespace SpecSkeleton

inductive SessionFault where
  | uri (fault : UriFault)
  | reading (fault : ReadFault)
  | relativePath
  | noUri (fault : NoUri)
  | row (fault : RowFault)
  | longNumber (number : LongNumber)
  deriving DecidableEq, Repr

def SessionFault.message : SessionFault → String
  | uri fault => fault.message
  | reading fault => fault.message
  | relativePath => "relative path can't be expressed as a file URI"
  | noUri fault => fault.message
  | row fault => fault.message
  | longNumber number => number.message

inductive EditorAnswer where
  | done
  | settings (settings : Settings) (level : Option Level)
  | symbols (symbols : List DocumentSymbol)
  | outline (s : OutlineState)
  deriving Repr

structure Session where
  updater : Updater := { listeners := [fun _ _ => .returns] }
  /-- The settings that symbols are made with. -/
  settings : Settings := {}
  /-- The level from which on the log is written, if it is set. -/
  level : Option Level := none
  workspace : Workspace := []
  journal : Journal := []

structure Turn where
  session : Session
  answer : Except SessionFault EditorAnswer
  sent : List EditorMessage

namespace Session

def state (s : Session) : OutlineState :=
  s.updater.state

/-- Writes records to the log that are heavy enough. -/
def log (s : Session) (records : Journal) : Session :=
  let lightest := (s.level.map Level.weight).getD 0
  { s with journal := s.journal ++ records.filter fun r => lightest ≤ r.level.weight }

def editorRecord (level : Level) (message : String) : LogRecord :=
  ⟨level, .editor, message⟩

/-- The path that a URI stands for when its document is opened or closed. -/
def pathOf (uri : String) : Except UriFault String :=
  (Uri.ofString uri).map fun u =>
    let path := u.filePath?.getD ""
    if path.isEmpty then uri else path

def faulty (s : Session) (fault : SessionFault) : Turn :=
  ⟨s, .error fault, []⟩

def answering (s : Session) (answer : EditorAnswer) : Turn :=
  ⟨s, .ok answer, []⟩

/-- Hands an event to the updater and sends what it delivers. -/
def present (s : Session) (e : EditorEvent) (answer : Session → EditorAnswer) : Turn :=
  let next := (s.updater.post e).process
  let session := { s with updater := next }.log (next.journal.drop s.updater.journal.length)
  let delivered := next.deliveries.drop s.updater.deliveries.length
  ⟨session, .ok (answer session), delivered.flatMap fun d => d.state.messages⟩

def answerDone (_ : Session) : EditorAnswer :=
  .done

def answerOutline (s : Session) : EditorAnswer :=
  .outline s.state

def adopt (s : Session) (settings : Settings) : Session :=
  { s with
    settings := settings
    updater := { s.updater with settings := settings }
    level := some settings.level }

def enter (host : SettingsHost) (s : Session) (root : String) : Turn :=
  match pathOf root with
  | .error fault => s.faulty (.uri fault)
  | .ok root =>
    let root := FilePath.ofString root
    let s := s.log [editorRecord .info s!"Workspace root: {root}"]
    match host.search root with
    | .ok settings => (s.adopt settings).answering (.settings settings (some settings.level))
    | .error (.unreadable fault) => s.faulty (.reading fault)
    | .error (.longNumber number) => s.faulty (.longNumber number)
    | .error (.refused refusal) =>
      (s.log [editorRecord .error s!"Failed to load configuration: {refusal.message}"]).answering
        (.settings s.settings s.level)

def opened (s : Session) (uri text : String) : Turn :=
  match Uri.ofString uri, pathOf uri with
  | .ok u, .ok path =>
    let s := { s with workspace := s.workspace.put uri ⟨u.documentPath, some text⟩ }
    let s := s.log [editorRecord .info s!"Opened: {uri}"]
    s.present (.active (some path) (some text)) answerDone
  | .error fault, _ => s.faulty (.uri fault)
  | _, .error fault => s.faulty (.uri fault)

/-- The path and the text of the document that a URI names. -/
def read (host : SettingsHost) (s : Session) (uri : String) :
    Except SessionFault (String × String) := do
  let document ← (s.workspace.document uri).mapError .uri
  let text ← (document.source host.toSurroundings).mapError .reading
  return (document.path, text)

def changed (host : SettingsHost) (s : Session) (uri text : String) : Turn :=
  let s := { s with workspace := s.workspace.edit uri text }
  match s.read host uri with
  | .ok (path, text) => s.present (.changed path text) answerDone
  | .error fault => s.faulty fault

def closed (s : Session) (uri : String) : Turn :=
  let s := { s with workspace := s.workspace.remove uri }
  let s := s.log [editorRecord .info s!"Closed: {uri}"]
  match pathOf uri with
  | .error fault => s.faulty (.uri fault)
  | .ok path =>
    if s.state.file = some path then s.present (.active none none) answerDone
    else s.answering .done

def symbolsOf (s : Session) (path text : String) : Turn :=
  let rule := s.updater.rule
  let s := s.log (parseJournal rule text path)
  match parse rule text path with
  | .ok roots =>
    match Forest.writtenSymbols s.settings roots with
    | .ok symbols => s.answering (.symbols symbols)
    | .error fault => s.faulty (.row fault)
  | .failed message =>
    ⟨s.log [editorRecord .error s!"Parsing failed: {message}"], .ok (.symbols []),
      [.error ("Failed to parse RSpec file: " ++ message)]⟩

def symbols (host : SettingsHost) (s : Session) (uri : String) : Turn :=
  match s.workspace.document uri with
  | .error fault => s.faulty (.uri fault)
  | .ok document =>
    if isSpecPath s.settings.specSuffix document.path then
      match document.source host.toSurroundings with
      | .ok text => s.symbolsOf document.path text
      | .error fault => s.faulty (.reading fault)
    else s.answering (.symbols [])

/-- Reads the document that the outline shows again. -/
def refreshShown (host : SettingsHost) (s : Session) : Turn :=
  let shown := s.state.file.getD ""
  if shown.isEmpty then s.answering (answerOutline s)
  else
    let path := FilePath.ofString shown
    if path.isAbsolute then
      match s.read host (Uri.ofPath path.toString) with
      | .ok (path, text) => s.present (.changed path text) answerOutline
      | .error fault => s.faulty fault
    else s.faulty .relativePath

def refresh (host : SettingsHost) (s : Session) (arguments : List Value) : Turn :=
  let uri := uriOfArguments arguments
  if uri.isGiven then
    match uri.toUri.mapError .noUri >>= s.read host with
    | .ok (path, text) => s.present (.active (some path) (some text)) answerOutline
    | .error fault => s.faulty fault
  else s.refreshShown host

/-- One turn: the session afterwards, the answer, and what is sent. -/
def turn (host : SettingsHost) (s : Session) : EditorRequest → Turn
  | .enter root =>
    let root := root.getD ""
    if root.isEmpty then s.answering (.settings s.settings s.level) else s.enter host root
  | .opened uri text => s.opened uri text
  | .changed uri text => s.changed host uri text
  | .closed uri => s.closed uri
  | .symbols uri => s.symbols host uri
  | .refresh arguments => s.refresh host arguments
  | .outline _ => s.answering (answerOutline s)

/-- The session that answers with a naming rule of its own; its log may have a level before any
settings are found. -/
def fresh (rule : NameRule) (level : Option Level) : Session :=
  { updater := { rule := rule, listeners := [fun _ _ => .returns] }, level }

/-- All turns of a run, in order. -/
def turns (host : SettingsHost) (s : Session) : List EditorRequest → List Turn
  | [] => []
  | r :: rest =>
    let t := s.turn host r
    t :: t.session.turns host rest

end Session

end SpecSkeleton
