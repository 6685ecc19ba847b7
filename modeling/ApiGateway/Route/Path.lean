import ApiGateway.Text

/-! # Request paths

The first segment of a path names a service; the rest is what its instances see, below their own
base path.
-/

namespace ApiGateway.Path

/-- Puts `path` below `base` with exactly one slash at the seam. -/
def join (base path : Text) : Text :=
  match base.getLast?, path with
  | some '/', '/' :: rest => base ++ rest
  | some '/', _ => base ++ path
  | _, '/' :: _ => base ++ path
  | _, _ => base ++ '/' :: path

def rooted : Text → Text
  | '/' :: rest => '/' :: rest
  | path => '/' :: path

/-- Removes a leading `/segment`. The result starts with a slash. -/
def stripFirst (segment path : Text) : Text :=
  let path := rooted path
  rooted ((('/' :: segment).isPrefixOf? path).getD path)

/-- The first segment after any leading slashes, unless it is empty. -/
def firstSegment? (path : Text) : Option Text :=
  match (path.dropWhile (· = '/')).takeWhile (· ≠ '/') with
  | [] => none
  | segment => some segment

end ApiGateway.Path
