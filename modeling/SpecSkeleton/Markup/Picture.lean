import SpecSkeleton.Markup.PictureTable
import SpecSkeleton.Text.Blank
import SpecSkeleton.Text.Line
import SpecSkeleton.Text.Lower
import SpecSkeleton.Uri.Percent

/-!
# Pictures in a text

A name between two colons with no blank between them stands for a picture, if there is one of that
name. The name may end in a request for the plain or the colourful form of it. What stands between
two colons and names nothing stays, and its closing colon opens no other name.
-/

namespace SpecSkeleton.Markup

/-- The entries of the table: names, and the characters they stand for. -/
def pictures : List (List Char × List Char) :=
  let entries := (Text.rows pictureTable.toList).flatMap (Text.pieces ',')
  entries.map fun entry =>
    let codes := Text.pieces '-' ((entry.dropWhile (· != ' ')).drop 1)
    let value (digits : List Char) :=
      digits.foldl (fun n d => n * 16 + (Percent.hexValue? d).getD 0) 0
    (entry.takeWhile (· != ' '), codes.map fun digits => Char.ofNat (value digits))

/-- A name without the request for a form, and the character that asks for the form. -/
def formOf (name : List Char) : List Char × List Char :=
  let plain := ['-', 't', 'e', 'x', 't']
  let colourful := ['-', 'e', 'm', 'o', 'j', 'i']
  if plain.isSuffixOf name then (name.take (name.length - plain.length), ['\uFE0E'])
  else if colourful.isSuffixOf name then (name.take (name.length - colourful.length), ['\uFE0F'])
  else (name, [])

def picture? (name : List Char) : Option (List Char) :=
  let (name, form) := formOf name
  (pictures.lookup (Text.lower name)).map (· ++ form)

/-- Whether a character can stand in the name of a picture. -/
def isPictureChar (c : Char) : Bool :=
  c != ':' && !Text.isBlank c

/-- Puts pictures in the place of their names. -/
def withPictures : List Char → List Char
  | [] => []
  | ':' :: cs =>
    let name := cs.takeWhile isPictureChar
    if (cs.drop name.length).head? = some ':' then
      ((picture? name).getD (':' :: name ++ [':'])) ++ withPictures (cs.drop (name.length + 1))
    else ':' :: withPictures cs
  | c :: cs => c :: withPictures cs
termination_by cs => cs.length

end SpecSkeleton.Markup
