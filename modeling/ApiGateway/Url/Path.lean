import ApiGateway.Url.Percent

/-! # Paths of URLs

A path is a list of segments, each behind a slash; a backslash counts as one. Dot segments are
resolved, and characters that a path does not show are percent encoded. A segment of a letter and
a colon or a bar is never removed by a double dot.
-/

namespace ApiGateway.Url

def isSlash (c : Char) : Bool := c = '/' || c = '\\'

def isSingleDot (segment : Text) : Bool :=
  [".", "%2e"].any fun dot => Text.equalIgnoringCase segment dot.toList

def isDoubleDot (segment : Text) : Bool :=
  ["..", ".%2e", "%2e.", "%2e%2e"].any fun dots => Text.equalIgnoringCase segment dots.toList

def isDriveLetter : Text → Bool
  | [letter, mark] => letter.isAlpha && (mark = ':' || mark = '|')
  | _ => false

/-- The segments without the last one, unless that is a drive letter. -/
def shorten (segments : List Text) : List Text :=
  if segments.getLast?.any isDriveLetter then segments else segments.dropLast

def rawSegments : Text → List Text
  | [] => [[]]
  | c :: s =>
    if isSlash c then [] :: rawSegments s
    else match rawSegments s with
      | [] => [[c]]
      | segment :: segments => (c :: segment) :: segments

/-- Takes the segments of a path one after the other behind those in `done`. A dot segment at the
end leaves an empty one. -/
def resolve (done : List Text) : List Text → List Text
  | [] => done
  | segment :: rest =>
    let done :=
      if isDoubleDot segment then shorten done
      else if isSingleDot segment then done
      else done ++ [segment]
    if rest = [] ∧ (isDoubleDot segment ∨ isSingleDot segment) then done ++ [[]]
    else resolve done rest

def pathText (segments : List Text) : Text := segments.flatMap ('/' :: ·)

/-- The path that a text stands for. One slash at its start is optional. -/
def normalizePath (s : Text) : Text :=
  let relative := match s with
    | c :: rest => if isSlash c then rest else s
    | [] => []
  pathText (resolve [] ((rawSegments relative).map (percentEncode pathSet)))

end ApiGateway.Url
