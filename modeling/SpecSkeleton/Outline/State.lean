import SpecSkeleton.Outline.File
import SpecSkeleton.Settings

/-!
# The state of an outline

An outline shows one file, the one that is active in the editor, or nothing. Editor events move it
from one state to the next: another file becomes active, or the text of a file changes. A change to
a file that the outline does not show is no event for it. Each event is told to the log.
-/

namespace SpecSkeleton

structure OutlineState where
  file : Option String := none
  roots : Forest := []
  error : Option String := none
  deriving Repr

/-- The state that shows nothing. -/
def OutlineState.empty : OutlineState := {}

inductive EditorEvent where
  /-- Another file is active, or none; its text may be unknown. -/
  | active (path : Option String) (text : Option String)
  | changed (path text : String)
  deriving DecidableEq, Repr

/-- The state that shows a text, or says why it cannot be shown. -/
def OutlineState.ofText (rule : NameRule) (path text : String) : OutlineState :=
  match parse rule text path with
  | .ok roots => ⟨some path, roots, none⟩
  | .failed message => ⟨some path, [], some ("Failed to parse RSpec file: " ++ message)⟩

/-- The next state, none if the event does not concern the outline. -/
def OutlineState.refresh? (rule : NameRule) (settings : Settings) (s : OutlineState) :
    EditorEvent → Option OutlineState
  | .active none _ => some .empty
  | .active (some path) text =>
    if isSpecPath settings.specSuffix path then some (.ofText rule path (text.getD ""))
    else some .empty
  | .changed path text =>
    if s.file = some path then some (.ofText rule path text) else none

def OutlineState.refresh (rule : NameRule) (settings : Settings) (s : OutlineState)
    (e : EditorEvent) : OutlineState :=
  (s.refresh? rule settings e).getD s

def outlineRecord (level : Level) (message : String) : LogRecord :=
  ⟨level, .outline, message⟩

/-- What showing a text writes to the log. -/
def textJournal (rule : NameRule) (path text : String) : Journal :=
  parseJournal rule text path ++
    match parse rule text path with
    | .ok roots => [outlineRecord .debug s!"Outline for {path} has {roots.length} root nodes"]
    | .failed message => [outlineRecord .error s!"Parsing failed: {message}"]

/-- What an event writes to the log. -/
def OutlineState.refreshJournal (rule : NameRule) (settings : Settings) (s : OutlineState) :
    EditorEvent → Journal
  | .active none _ => [outlineRecord .debug "No active editor, clearing outline"]
  | .active (some path) text =>
    if isSpecPath settings.specSuffix path then textJournal rule path (text.getD "")
    else [outlineRecord .debug s!"{path} is not an RSpec file, clearing outline"]
  | .changed path text =>
    if s.file = some path then textJournal rule path text else []

end SpecSkeleton
