import SpecSkeleton.Discovery
import SpecSkeleton.Markup.Plain
import SpecSkeleton.Settings.Search

/-!
# Outcomes of commands

What a command leaves behind: an exit code, what it writes to its output and as an error, and its
log. A command line that is no use of the program, and a fault that no command expects, are
outcomes of their own.
-/

namespace SpecSkeleton.Command

/-- A fault that a command does not expect. -/
inductive Crash where
  | reading (fault : ReadFault)
  | discovery (fault : DiscoveryFault)
  | markup (fault : Markup.Fault)
  | longNumber (number : LongNumber)
  deriving DecidableEq, Repr

def Crash.message : Crash → String
  | reading fault => fault.message
  | discovery fault => fault.message
  | markup fault => fault.message
  | longNumber number => number.message

inductive Exit where
  | code (n : Nat)
  | usage
  | crash (fault : Crash)
  deriving DecidableEq, Repr

inductive Output where
  | text (s : String)
  | table (rows : List (List String))
  /-- What the program says about itself: lines before and after those about where it runs. -/
  | about (before after : List String)
  deriving DecidableEq, Repr

structure Outcome where
  exit : Exit
  output : Output := .text ""
  errors : String := ""
  journal : Journal := []
  deriving DecidableEq, Repr

namespace Outcome

def line (s : String) : String :=
  s ++ "\n"

def usage : Outcome :=
  ⟨.usage, .text "", "", []⟩

def crash (fault : Crash) : Outcome :=
  ⟨.crash fault, .text "", "", []⟩

def printing (s : String) : Outcome :=
  ⟨.code 0, .text s, "", []⟩

/-- Prints markup as a line. -/
def showing (markup : String) : Outcome :=
  match Markup.plain markup with
  | .ok s => printing (line s)
  | .error fault => crash (.markup fault)

/-- Fails with a message. -/
def failing (message : String) : Outcome :=
  match Markup.plain (Markup.styled "red" ("Error: " ++ Markup.escape message)) with
  | .ok s => ⟨.code 1, .text "", line s, []⟩
  | .error fault => crash (.markup fault)

def logging (o : Outcome) (records : Journal) : Outcome :=
  { o with journal := records ++ o.journal }

end Outcome

/-- Goes on with settings, or ends with the fault that keeps them away. -/
def withSettings (found : Except SettingsFault Settings) (next : Settings → Outcome) : Outcome :=
  match found with
  | .ok settings => next settings
  | .error (.refused refusal) => .failing refusal.message
  | .error (.unreadable fault) => .crash (.reading fault)
  | .error (.longNumber number) => .crash (.longNumber number)

/-- Goes on with a path if it is that of a spec file. -/
def requiringSpecFile (settings : Settings) (p : FilePath) (next : Outcome) : Outcome :=
  if isSpecPath settings.specSuffix p.toString then next
  else
    .failing (Diagnostic.aboutSpec s!"not an RSpec file (expected *{settings.specSuffix})" p
      none).text

end SpecSkeleton.Command
