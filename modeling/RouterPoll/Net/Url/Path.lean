import RouterPoll.Net.Url.Spelling

/-!
# Paths of URLs

A path is a slash and segments between slashes. A segment of one dot stands for the place where it is and one of two dots for the place above, except that a segment which names a drive is never left. In the path of a file the first segment may name a drive with a colon or a bar.
-/

namespace RouterPoll

namespace Url

abbrev Segment := List Char

def isOneDot (segment : Segment) : Bool :=
  segment == ['.'] || segment.map Char.toLower == ['%', '2', 'e']

def isTwoDots (segment : Segment) : Bool :=
  ["..", ".%2e", "%2e.", "%2e%2e"].contains (String.ofList (segment.map Char.toLower))

def isDriveMark (char : Char) : Bool := char == ':' || char == '|'

/-- A letter with a colon or a bar. -/
def isDrive : Segment → Bool
  | [letter, mark] => letter.isAlpha && isDriveMark mark
  | _ => false

/-- Whether a segment names a drive, up to a backslash if there is one. -/
def beginsWithDrive (segment : Segment) : Bool :=
  isDrive (segment.take 2) && (segment[2]?.all (· == '\\'))

/-- The segments without the last one; all of them are in reverse order. -/
def above : List Segment → List Segment
  | last :: before => if beginsWithDrive last then last :: before else before
  | [] => []

/-- A segment where a drive is written with a colon. -/
def colonDrive (segment : Segment) : Segment :=
  if isDrive segment then segment.take 1 ++ [':'] else segment

/-- Takes one more segment to those before, which are in reverse order. -/
def enter (isFile : Bool) (done : List Segment) (segment : Segment) : List Segment :=
  if isTwoDots segment then above done
  else if isOneDot segment then done
  else if isFile && done.isEmpty then [colonDrive (encode inPath segment)]
  else encode inPath segment :: done

/-- All segments after resolving dots, in reverse order. A path that ends in dots ends in a slash. -/
def resolve (isFile : Bool) : List Segment → List Segment → List Segment
  | done, [] => done
  | done, segment :: rest =>
    let next := enter isFile done segment
    if rest.isEmpty && (isOneDot segment || isTwoDots segment) then [] :: next
    else resolve isFile next rest

def joined (segments : List Segment) : String :=
  "/" ++ String.intercalate "/" (segments.map String.ofList)

/-- The normal form of a path after its first slash. -/
def pathText (chars : List Char) : String := joined (resolve false [] (chars.splitOn '/')).reverse

/-- The normal form of the path of a file, which has no empty segments in front. -/
def filePathText (chars : List Char) : String :=
  joined ((resolve true [] (chars.splitOn '/')).reverse.dropWhile List.isEmpty)

/-- Whether a whole segment names the drive of a path, where `done` is behind it. -/
def entersDrive : List Segment → List Segment → Bool
  | _, [] => false
  | done, segment :: rest =>
    (done.isEmpty && isDrive segment) || entersDrive (enter true done segment) rest

/-- Whether the path of a file begins on a drive. -/
def isOnDrive (chars : List Char) : Bool := entersDrive [] (chars.splitOn '/')

end Url

end RouterPoll
