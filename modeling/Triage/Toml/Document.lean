import Triage.Toml.Moment

/-!
# TOML documents

A document is a sequence of lines that set keys, open tables or add tables to
arrays.  Keys may have several parts.  No key is set twice and no table is opened
twice; an inline table or an array that is written out cannot be extended later.
-/

namespace Triage.Toml

/-! ## Keys -/

/-- A character of a key without quotes. -/
def isBareKey (character : Char) : Bool :=
  character.isAlphanum || character == '-' || character == '_'

/-- One part of a key. -/
def keyPart? (characters : List Char) : Option (String × List Char) :=
  match characters.takeWhile isBareKey with
  | [] => lineString? characters
  | bare => some (String.ofList bare, characters.dropWhile isBareKey)

/-- The greatest number of parts of a key. -/
def keyPartLimit : Nat := 1000

/-- The parts of a key, separated by points, of which so many more are
allowed. -/
def keyParts : Nat → List Char → Except SettingsFault (List String × List Char)
  | allowed, characters => do
      let (part, rest) ← orMalformed (keyPart? characters)
      match allowed with
      | 0 => .error (.keyParts keyPartLimit)
      | allowed + 1 =>
          match skipSpace rest with
          | '.' :: more => do
              let (parts, after) ← keyParts allowed (skipSpace more)
              return (part :: parts, after)
          | after => return ([part], after)

/-- A key, with the blanks after it dropped. -/
def key (characters : List Char) : Except SettingsFault (List String × List Char) :=
  keyParts keyPartLimit characters

/-! ## Places in tables -/

/-- Change the last table of an array. -/
def changeLast (change : Json.Fields → Option Json.Fields) : List Json → Option (List Json)
  | [] => none
  | [.obj fields] => (change fields).map fun fields => [.obj fields]
  | [_] => none
  | item :: rest => (changeLast change rest).map fun rest => item :: rest

/-- Change the table at a path, which is created as far as it does not exist.  An
array of tables stands for its last one. -/
def changeAt (change : Json.Fields → Option Json.Fields) : List String → Json.Fields →
    Option Json.Fields
  | [], fields => change fields
  | key :: path, fields =>
      match fields.get? key with
      | none => (changeAt change path []).map fun inner => Keyed.put fields key (.obj inner)
      | some (.obj inner) =>
          (changeAt change path inner).map fun inner => Keyed.put fields key (.obj inner)
      | some (.arr items) =>
          (changeLast (changeAt change path) items).map fun items =>
            Keyed.put fields key (.arr items)
      | some _ => none

/-- Add an empty table to the array of a key, which is created if it does not exist. -/
def addTable (key : String) (fields : Json.Fields) : Option Json.Fields :=
  match fields.get? key with
  | none => some (Keyed.put fields key (.arr [.obj []]))
  | some (.arr items) => some (Keyed.put fields key (.arr (items ++ [.obj []])))
  | some _ => none

/-- Set a key that is not set yet. -/
def setNew (key : String) (value : Json) (fields : Json.Fields) : Option Json.Fields :=
  if fields.has key then none else some (Keyed.put fields key value)

/-- Whether a value is a table or an array. -/
def isContainer : Json → Bool
  | .arr _ => true
  | .obj _ => true
  | _ => false

/-- Whether a path lies at or below one of some others. -/
def coveredBy (paths : List (List String)) (path : List String) : Bool :=
  paths.any fun other => other.isPrefixOf path

/-! ## Values -/

/-- Drop a comment in front, up to the end of its line. -/
def skipComment? (characters : List Char) : Option (List Char) :=
  match characters with
  | '#' :: rest =>
      let comment := rest.takeWhile (· != '\n')
      if comment.any (isIllegal false) then none else some (rest.dropWhile (· != '\n'))
  | _ => some characters

/-- Drop blanks, ends of lines and comments in front; `fuel` bounds the number of
comments. -/
def skipFiller : Nat → List Char → Option (List Char)
  | 0, _ => none
  | fuel + 1, characters =>
      match characters.dropWhile isSpaceOrNewline with
      | '#' :: rest => do
          let after ← skipComment? ('#' :: rest)
          skipFiller fuel after
      | rest => some rest

/-- Drop blanks, ends of lines and comments in front. -/
def skipFiller? (characters : List Char) : Option (List Char) :=
  skipFiller (characters.length + 1) characters

/-- The greatest depth of arrays and inline tables within each other. -/
def nestingLimit : Nat := 400

mutual

/-- A value at a depth of nesting; `fuel` bounds the depth and the number of
items. -/
def value : Nat → Nat → List Char → Except SettingsFault (Json × List Char)
  | 0, _, _ => .error .malformed
  | fuel + 1, depth, characters =>
      if nestingLimit < depth then .error (.nesting nestingLimit)
      else
        match characters with
        | [] => .error .malformed
        | '"' :: _ =>
            orMalformed ((string? characters).map fun found => (.str found.1, found.2))
        | '\'' :: _ =>
            orMalformed ((string? characters).map fun found => (.str found.1, found.2))
        | 't' :: 'r' :: 'u' :: 'e' :: rest => .ok (.bool true, rest)
        | 'f' :: 'a' :: 'l' :: 's' :: 'e' :: rest => .ok (.bool false, rest)
        | '[' :: rest => do
            match ← orMalformed (skipFiller? rest) with
            | ']' :: after => return (.arr [], after)
            | items => array fuel (depth + 1) [] items
        | '{' :: rest => do
            match ← orMalformed (skipFiller? rest) with
            | '}' :: after => return (.obj [], after)
            | entries => inlineTable fuel (depth + 1) [] [] entries
        | _ => momentOrNumber characters

/-- The items of an array; `reversed` holds those read so far. -/
def array : Nat → Nat → List Json → List Char → Except SettingsFault (Json × List Char)
  | 0, _, _, _ => .error .malformed
  | fuel + 1, depth, reversed, characters => do
      let (item, afterItem) ← value fuel depth characters
      match ← orMalformed (skipFiller? afterItem) with
      | ']' :: after => return (.arr (item :: reversed).reverse, after)
      | ',' :: rest =>
          match ← orMalformed (skipFiller? rest) with
          | ']' :: after => return (.arr (item :: reversed).reverse, after)
          | items => array fuel depth (item :: reversed) items
      | _ => .error .malformed

/-- The entries of an inline table; `fields` holds those read so far and `closed`
the paths that cannot be extended. -/
def inlineTable : Nat → Nat → List (List String) → Json.Fields → List Char →
    Except SettingsFault (Json × List Char)
  | 0, _, _, _, _ => .error .malformed
  | fuel + 1, depth, closed, fields, characters => do
      let (path, afterKey) ← key characters
      match afterKey with
      | '=' :: rest => do
          let (item, afterItem) ← value fuel depth (skipSpace rest)
          if coveredBy closed path then .error .malformed
          else do
            let stem ← orMalformed path.getLast?
            let fields ← orMalformed (changeAt (setNew stem item) path.dropLast fields)
            match ← orMalformed (skipFiller? afterItem) with
            | '}' :: after => return (.obj fields, after)
            | ',' :: more =>
                let closed := if isContainer item then path :: closed else closed
                match ← orMalformed (skipFiller? more) with
                | '}' :: after => return (.obj fields, after)
                | entries => inlineTable fuel depth closed fields entries
            | _ => .error .malformed
      | _ => .error .malformed

end

/-- A key with its value. -/
def entry (characters : List Char) :
    Except SettingsFault (List String × Json × List Char) := do
  let (path, afterKey) ← key characters
  match afterKey with
  | '=' :: rest =>
      let (item, after) ← value (rest.length + 1) 0 (skipSpace rest)
      return (path, item, after)
  | _ => .error .malformed

/-! ## Documents -/

/-- A document as far as it has been read. -/
structure Document where
  fields : Json.Fields := []
  /-- The table that keys belong to. -/
  header : List String := []
  /-- Paths that cannot be extended, nor anything below them. -/
  closed : List (List String) := []
  /-- Tables that cannot be opened again, nor extended by keys of several parts. -/
  opened : List (List String) := []
  /-- Tables named by keys of several parts, which count as opened from the next
  heading on. -/
  pending : List (List String) := []

namespace Document

/-- The tables that a key of several parts names below a table. -/
def partsOf (header path : List String) : List (List String) :=
  ((List.range path.length).drop 1).map fun count => header ++ path.take count

/-- Set a key. -/
def set (document : Document) (path : List String) (item : Json) : Option Document := do
  let named := partsOf document.header path
  if named.any document.opened.contains then none
  else
    let stem ← path.getLast?
    let place := document.header ++ path.dropLast
    if coveredBy document.closed place then none
    else
      let fields ← changeAt (setNew stem item) place document.fields
      some { document with
        fields := fields
        closed :=
          if isContainer item then (document.header ++ path) :: document.closed
          else document.closed
        pending := named ++ document.pending }

/-- Open a table. -/
def openTable (document : Document) (path : List String) : Option Document :=
  let opened := document.pending ++ document.opened
  if opened.contains path || coveredBy document.closed path then none
  else
    (changeAt some path document.fields).map fun fields =>
      { document with fields := fields, header := path, opened := path :: opened, pending := [] }

/-- Add a table to an array.  Nothing that was opened or closed below the array before
holds for the new table. -/
def addItem (document : Document) (path : List String) : Option Document :=
  if coveredBy document.closed path then none
  else do
    let stem ← path.getLast?
    let fields ← changeAt (addTable stem) path.dropLast document.fields
    let elsewhere := fun other => !path.isPrefixOf other
    some {
      fields := fields
      header := path
      closed := document.closed.filter elsewhere
      opened := path :: (document.pending ++ document.opened).filter elsewhere }

/-- The heading of a table of an array after its opening brackets. -/
def itemHeading (document : Document) (characters : List Char) :
    Except SettingsFault (Document × List Char) := do
  let (path, afterKey) ← key (skipSpace characters)
  match afterKey with
  | ']' :: ']' :: rest =>
      let document ← orMalformed (document.addItem path)
      return (document, rest)
  | _ => .error .malformed

/-- The heading of a table after its opening bracket. -/
def heading (document : Document) (characters : List Char) :
    Except SettingsFault (Document × List Char) := do
  let (path, afterKey) ← key (skipSpace characters)
  match afterKey with
  | ']' :: rest =>
      let document ← orMalformed (document.openTable path)
      return (document, rest)
  | _ => .error .malformed

/-- A line's statement, if it has one. -/
def statement (document : Document) (characters : List Char) :
    Except SettingsFault (Document × List Char) :=
  match characters with
  | [] => .ok (document, [])
  | '\n' :: _ => .ok (document, characters)
  | '#' :: _ => .ok (document, characters)
  | '[' :: '[' :: rest => document.itemHeading rest
  | '[' :: rest => document.heading rest
  | _ => do
      let (path, item, rest) ← entry characters
      let document ← orMalformed (document.set path item)
      return (document, rest)

/-- Read the lines of a document; `fuel` bounds their number. -/
def readLines : Nat → Document → List Char → Except SettingsFault Document
  | 0, _, _ => .error .malformed
  | fuel + 1, document, characters => do
      let (document, rest) ← document.statement (skipSpace characters)
      match ← orMalformed (skipComment? (skipSpace rest)) with
      | [] => return document
      | '\n' :: more => readLines fuel document more
      | _ => .error .malformed

end Document

/-- Ends of lines of two characters become ends of one. -/
def unifyNewlines : List Char → List Char
  | [] => []
  | '\r' :: '\n' :: rest => '\n' :: unifyNewlines rest
  | character :: rest => character :: unifyNewlines rest

/-- The table that a document describes. -/
def read (text : String) : Except SettingsFault Json.Fields :=
  let characters := unifyNewlines text.toList
  (Document.readLines (characters.length + 1) {} characters).map (·.fields)

end Triage.Toml
