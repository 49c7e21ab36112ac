/-!
# Kinds of outline elements

The twelve keywords that open an element of a spec: example groups, examples, hooks and shared
values. A keyword is written in lower case; each kind has one keyword and no two kinds share it.
-/

namespace SpecSkeleton

inductive Kind where
  | describe
  | context
  | xdescribe
  | xcontext
  | it
  | xit
  | before
  | after
  | around
  | prependBefore
  | appendAfter
  | letValue
  deriving DecidableEq, Repr

namespace Kind

def all : List Kind :=
  [describe, context, xdescribe, xcontext, it, xit, before, after, around, prependBefore,
    appendAfter, letValue]

theorem mem_all (k : Kind) : k ∈ all := by
  cases k <;> decide

/-- The letters of the keyword. -/
def letters : Kind → List Char
  | describe => ['d', 'e', 's', 'c', 'r', 'i', 'b', 'e']
  | context => ['c', 'o', 'n', 't', 'e', 'x', 't']
  | xdescribe => ['x', 'd', 'e', 's', 'c', 'r', 'i', 'b', 'e']
  | xcontext => ['x', 'c', 'o', 'n', 't', 'e', 'x', 't']
  | it => ['i', 't']
  | xit => ['x', 'i', 't']
  | before => ['b', 'e', 'f', 'o', 'r', 'e']
  | after => ['a', 'f', 't', 'e', 'r']
  | around => ['a', 'r', 'o', 'u', 'n', 'd']
  | prependBefore => ['p', 'r', 'e', 'p', 'e', 'n', 'd', '_', 'b', 'e', 'f', 'o', 'r', 'e']
  | appendAfter => ['a', 'p', 'p', 'e', 'n', 'd', '_', 'a', 'f', 't', 'e', 'r']
  | letValue => ['l', 'e', 't']

def keyword (k : Kind) : String :=
  String.ofList k.letters

def ofLetters? (cs : List Char) : Option Kind :=
  all.find? (·.letters == cs)

def ofKeyword? (s : String) : Option Kind :=
  ofLetters? s.toList

theorem ofLetters?_letters (k : Kind) : ofLetters? k.letters = some k := by
  cases k <;> decide

theorem letters_of_ofLetters? {cs : List Char} {k : Kind} (h : ofLetters? cs = some k) :
    k.letters = cs := by
  simpa using List.find?_some h

@[simp]
theorem ofKeyword?_keyword (k : Kind) : ofKeyword? k.keyword = some k := by
  simp [ofKeyword?, keyword, ofLetters?_letters]

/-- Named after their keyword, whatever follows it. -/
def isHook : Kind → Bool
  | before | after | around | prependBefore | appendAfter => true
  | _ => false

def isGroup : Kind → Bool
  | describe | context | xdescribe | xcontext => true
  | _ => false

def isExample : Kind → Bool
  | it | xit => true
  | _ => false

def isSkipped : Kind → Bool
  | xdescribe | xcontext | xit => true
  | _ => false

end Kind

end SpecSkeleton
