/-!
# Paths

A path is written with slashes.  Its normal form drops empty steps and steps
that stay in place; a step to the parent is kept, since it cannot be resolved
without looking at the files.  Two slashes at the beginning are kept apart
from one and from three.
-/

namespace MapIngest.Config

/-- A path: the slashes that it begins with, and its steps. -/
structure Path where
  root : String
  steps : List String
deriving DecidableEq

namespace Path

/-- Cut a text at the slashes. -/
def atSlashes (text : List Char) : List String :=
  (text.splitOn '/').map String.ofList

/-- The slashes that a path begins with, in normal form. -/
def rootOf (text : List Char) : String :=
  match (text.takeWhile (· == '/')).length with
  | 0 => ""
  | 2 => "//"
  | _ => "/"

/-- The path that a text names. -/
def ofText (text : String) : Path where
  root := rootOf text.toList
  steps := (atSlashes text.toList).filter fun step => step != "" && step != "."

/-- Go on from a path. -/
def append (path : Path) (steps : List String) : Path :=
  { path with steps := path.steps ++ steps }

/-- The normal form of a path; a path without steps stays in place. -/
def text (path : Path) : String :=
  let written := path.root ++ "/".intercalate path.steps
  if written.isEmpty then "." else written

example : (ofText "/a/../b//./c").text = "/a/../b/c" := by decide +kernel

end Path

end MapIngest.Config
