import Phrasebook.Translation.Url.Percent

/-!
# Paths of addresses

A path is read segment by segment; one dot stands for where it is, two dots lead back.

- `normalPath`: the normal form of a path.
-/

namespace Phrasebook.Url

/-- Whether a segment is one dot, possibly encoded. -/
def isDot (segment : List Char) : Bool :=
  [".", "%2e"].contains (String.ofList (segment.map Char.toLower))

/-- Whether a segment is two dots, possibly encoded. -/
def isDoubleDot (segment : List Char) : Bool :=
  ["..", ".%2e", "%2e.", "%2e%2e"].contains (String.ofList (segment.map Char.toLower))

/-- Whether a path with its last slash is a drive, such as `/C:/`. -/
def isDrive (path : List Char) : Bool :=
  match path with
  | ['/', letter, mark, '/'] => letter.isAlpha && (mark == ':' || mark == '|')
  | _ => false

/-- The path up to its last slash. -/
def upToSlash (path : List Char) : List Char := (path.reverse.dropWhile (· != '/')).reverse

/-- The path without its slash at the end, unless that is its only slash or ends a drive. -/
def dropSlash (path : List Char) : List Char :=
  if path.getLast? == some '/' then
    let front := path.dropLast
    let last := '/' :: (front.reverse.takeWhile (· != '/')).reverse ++ ['/']
    if front.contains '/' && !isDrive last then front else path
  else path

/-- The path with a slash at its end. -/
def withSlash (path : List Char) : List Char :=
  if path.getLast? == some '/' then path else path ++ ['/']

/-- The path behind a segment. A slash follows the segment unless it is the `last` one. -/
def addSegment (path segment : List Char) (last : Bool) : List Char :=
  if isDoubleDot segment then
    let parent := upToSlash (dropSlash path)
    if last then parent else withSlash parent
  else if isDot segment then withSlash path
  else path ++ segment ++ (if last then [] else ['/'])

/-- Whether `c` stands between segments. -/
def isSlash (known : Bool) (c : Char) : Bool := c == '/' || (known && c == '\\')

/-- The path behind the segments of a text: `segment` is the one at hand, backwards. -/
def addSegments (known : Bool) (path segment : List Char) : List Char → List Char
  | [] => addSegment path (segment.reverse.flatMap (encode inPath)) true
  | c :: rest =>
    if isSlash known c then
      addSegments known (addSegment path (segment.reverse.flatMap (encode inPath)) false) [] rest
    else addSegments known path (c :: segment) rest

/-- The normal form of the path that starts with `path` and goes on with the segments of a text. -/
def normalPath (known : Bool) (path text : List Char) : List Char := addSegments known path [] text

end Phrasebook.Url
