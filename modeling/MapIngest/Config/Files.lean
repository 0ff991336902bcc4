import MapIngest.Config.Path
import MapIngest.Yaml.Document

/-!
# Configuration files

The files of a configuration are looked up by their paths from one directory.
A path may lead to a file, to a directory, or nowhere.  A document that counts
as false stands for an empty configuration.
-/

namespace MapIngest.Config

/-- Files with their contents, by their paths. -/
abbrev Files := List (String × List UInt8)

/-- What a path leads to. -/
inductive Found where
  | file (content : List UInt8)
  | directory
  | nothing

namespace Files

/-- The steps of the paths of all files. -/
def places (files : Files) : List (List String × List UInt8) :=
  files.map fun entry => ((Path.ofText entry.1).steps, entry.2)

/-- What a sequence of steps from the directory leads to. -/
def at? (files : Files) (steps : List String) : Found :=
  match files.places.find? fun place => place.1 == steps with
  | some place => .file place.2
  | none =>
    if files.places.any fun place => steps.isPrefixOf place.1 then
      .directory
    else if steps.isEmpty then
      .directory
    else
      .nothing

/-- Follow steps from a place: steps to the parent are only possible from a directory. -/
def follow (files : Files) : (place : List String) → (steps : List String) → Found
  | place, [] => files.at? place
  | place, step :: rest =>
    match files.at? place with
    | .directory =>
      if step == ".." then
        if place.isEmpty then
          if rest.all (· == "..") then .directory else .nothing
        else
          follow files place.dropLast rest
      else
        follow files (place ++ [step]) rest
    | _ => .nothing

/-- What a path leads to. -/
def find (files : Files) (path : Path) : Found :=
  if path.root.isEmpty then
    files.follow [] path.steps
  else if path.steps.isEmpty then
    .directory
  else
    .nothing

/-- Read a configuration file. -/
def load (files : Files) (name : String) : Except Fault Value :=
  let path := Path.ofText name
  match files.find path with
  | .nothing => .error (.missingFile path.text)
  | .directory => .error .directory
  | .file content =>
    (Yaml.load content).map fun document =>
      if document.isTruthy then document else .mapping []

end Files

end MapIngest.Config
