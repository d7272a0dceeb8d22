import Triage.Text.Basic

/-!
# Locations of files

A location is a root and the names below it.  Empty names and single points do
not count; double points do.
-/

namespace Triage

/-- A location in the file system. -/
structure Location where
  /-- No slash for a relative location, otherwise one or two. -/
  root : String
  names : List String
  deriving DecidableEq, Repr

namespace Location

/-- The root of a text: two slashes in front are kept, any other number of them
is one. -/
def rootOf (characters : List Char) : String :=
  match (characters.takeWhile (· == '/')).length with
  | 0 => ""
  | 2 => "//"
  | _ => "/"

/-- Whether a name counts. -/
def counts (name : List Char) : Bool :=
  !name.isEmpty && name != ['.']

/-- The location that a text gives. -/
def ofText (text : String) : Location where
  root := rootOf text.toList
  names := ((Text.splitAt '/' text.toList).filter counts).map String.ofList

/-- A name below a location. -/
def child (location : Location) (name : String) : Location :=
  { location with names := location.names ++ [name] }

/-- The location that another one is in. -/
def parent (location : Location) : Location :=
  { location with names := location.names.dropLast }

/-- Whether a location is a directory on the way to another one. -/
def isAbove (location other : Location) : Bool :=
  location.root == other.root && location.names.length < other.names.length &&
    location.names.isPrefixOf other.names

/-- The names that are left when double points cancel the names before them,
going on behind some names in reverse order. -/
def cancelled (isAbsolute : Bool) (before : List String) : List String → List String
  | [] => before.reverse
  | name :: rest =>
      if name == ".." then
        match before with
        | [] => cancelled isAbsolute (if isAbsolute then [] else [name]) rest
        | last :: others =>
            cancelled isAbsolute (if last == ".." then name :: before else others) rest
      else cancelled isAbsolute (name :: before) rest

/-- The location without double points, except those in front of a relative
one. -/
def resolved (location : Location) : Location :=
  { location with names := cancelled (!location.root.isEmpty) [] location.names }

/-- The text of a location; the empty relative one is a single point. -/
def text (location : Location) : String :=
  let whole := location.root ++ "/".intercalate location.names
  if whole.isEmpty then "." else whole

end Location

end Triage
