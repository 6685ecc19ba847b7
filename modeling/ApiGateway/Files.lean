import ApiGateway.Text.Utf8

/-! # Files

Reading a file either gives its bytes or fails for one of a few reasons. A directory of files
given as a list answers as the operating system would with that directory as the working one; files
that have been read already answer as they were read.
-/

namespace ApiGateway

inductive FileError
  | notFound
  | notDirectory
  | isDirectory
  | nameTooLong
  | nulInName
  | denied
  /-- Any other reason, in the words of the operating system. -/
  | other (details : Text)
  deriving DecidableEq, Repr

def FileError.message : FileError → Text
  | notFound => "No such file or directory (os error 2)"
  | notDirectory => "Not a directory (os error 20)"
  | isDirectory => "Is a directory (os error 21)"
  | nameTooLong => "File name too long (os error 36)"
  | nulInName => "file name contained an unexpected NUL byte"
  | denied => "Permission denied (os error 13)"
  | other details => details

/-- How each path is read. -/
abbrev Files := Text → Except FileError Bytes

namespace Files

/-- The names on a path, without those that stay in the same directory. -/
def steps (path : Text) : List Text := (path.split '/').filter fun s => s ≠ [] ∧ s ≠ ("." : Text)

def wantsDirectory (path : Text) : Bool :=
  (path.split '/').getLast?.any fun s => s = [] ∨ s = ("." : Text)

/-- Follows names downwards; `entries` are the files below the current directory, with the names
that lead to them. -/
def walk (directory : Bool) (entries : List (List Text × Bytes)) :
    List Text → Except FileError Bytes
  | [] => .error .isDirectory
  | name :: rest =>
    let below := entries.filterMap fun (names, content) =>
      match names with
      | first :: names => if first = name then some (names, content) else none
      | [] => none
    match below.find? (·.1 = []) with
    | some (_, content) =>
      if rest = [] ∧ !directory then .ok content else .error .notDirectory
    | none => if below = [] then .error .notFound else walk directory below rest

/-- The working directory with these files in it. Outside of it there is nothing. -/
def ofList (entries : List (Text × Bytes)) : Files := fun path =>
  if path.contains '\x00' then .error .nulInName
  else if path = [] then .error .notFound
  else if path.head? = some '/' then
    if steps path = [] then .error .isDirectory else .error .notFound
  else if 4095 < path.utf8.length ∨ (steps path).any fun s => 255 < s.utf8.length then
    .error .nameTooLong
  else walk (wantsDirectory path) (entries.map fun (name, content) => (steps name, content))
    (steps path)

/-- Files that have been read already. -/
def ofReadings (readings : List (Text × Except FileError Bytes)) : Files := fun path =>
  match readings.find? (·.1 = path) with
  | some (_, reading) => reading
  | none => .error .notFound

end Files

end ApiGateway
