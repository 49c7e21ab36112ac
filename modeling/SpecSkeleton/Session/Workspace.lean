import SpecSkeleton.File.Tree
import SpecSkeleton.Uri.Basic

/-!
# Workspaces

The documents that an editor has open, each under its URI in decoded form, so that two spellings of
a URI name one document. A document that is not open is looked up as a file whenever its text is
asked for.
-/

namespace SpecSkeleton

/-- A document; without a text of its own it is read from its file. -/
structure Document where
  path : String
  text : Option String
  deriving DecidableEq, Repr

def Document.source (d : Document) (s : Surroundings) : Except ReadFault String :=
  match d.text with
  | some text => .ok text
  | none => s.readText (.ofString d.path)

abbrev Workspace := List (String × Document)

namespace Workspace

def get? (w : Workspace) (uri : String) : Option Document :=
  w.lookup (Percent.decode uri)

def remove (w : Workspace) (uri : String) : Workspace :=
  w.filter fun (key, _) => key != Percent.decode uri

def put (w : Workspace) (uri : String) (d : Document) : Workspace :=
  (Percent.decode uri, d) :: w.remove uri

/-- Replaces the text of a document if it is open. -/
def edit (w : Workspace) (uri text : String) : Workspace :=
  match w.get? uri with
  | some d => w.put uri { d with text := some text }
  | none => w

/-- The document that a URI names, open or not. -/
def document (w : Workspace) (uri : String) : Except UriFault Document :=
  match w.get? uri with
  | some d => .ok d
  | none => (Uri.ofString uri).map fun u => ⟨u.documentPath, none⟩

end Workspace

end SpecSkeleton
