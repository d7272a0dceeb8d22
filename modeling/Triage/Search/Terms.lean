import Triage.Text.Case

/-!
# Search terms

A search text holds operators and free text.  An operator is a key, with an
optional minus sign in front, a colon and a value.  A value between quotes is
taken literally; any other runs up to the next blank and is a list separated by
commas.  An operator starts at the start of the text or after a blank; whatever
is no operator is free text.
-/

namespace Triage.Search

/-- The value of an operator as it is written. -/
inductive TermValue where
  | quoted (body : List Char)
  | bare (run : List Char)
  deriving DecidableEq, Repr

/-- An operator as it is written. -/
structure Term where
  key : List Char
  value : TermValue
  deriving DecidableEq, Repr

/-- The part of a text up to a closing quote and the part after it. -/
def closeQuote? (quote : Char) : List Char → Option (List Char × List Char)
  | [] => none
  | character :: rest =>
      if character == quote then some ([], rest)
      else (closeQuote? quote rest).map fun found => (character :: found.1, found.2)

/-- A value up to the next blank. -/
def bareValue? (characters : List Char) : Option (TermValue × List Char) :=
  match characters.takeWhile fun character => !Text.isBlank character with
  | [] => none
  | run => some (.bare run, characters.dropWhile fun character => !Text.isBlank character)

/-- The value in front of a text.  A quote that is not closed belongs to a value
up to the next blank. -/
def value? (characters : List Char) : Option (TermValue × List Char) :=
  match characters with
  | [] => none
  | first :: rest =>
      if first == '"' || first == '\'' then
        match closeQuote? first rest with
        | some (body, after) => some (.quoted body, after)
        | none => bareValue? characters
      else bareValue? characters

/-- The minus sign in front of a text, if there is one, and the rest. -/
def takeSign (characters : List Char) : List Char × List Char :=
  match characters with
  | [] => ([], [])
  | first :: rest => if first == '-' then (['-'], rest) else ([], characters)

/-- The operator in front of a text and the rest. -/
def term? (characters : List Char) : Option (Term × List Char) :=
  let signed := takeSign characters
  match signed.2.takeWhile Text.isWord with
  | [] => none
  | name =>
      match signed.2.dropWhile Text.isWord with
      | [] => none
      | mark :: written =>
          if mark == ':' then
            (value? written).map fun found => (⟨signed.1 ++ name, found.1⟩, found.2)
          else none

theorem length_dropWhile_le (test : Char → Bool) (characters : List Char) :
    (characters.dropWhile test).length ≤ characters.length := by
  induction characters with
  | nil => simp
  | cons first rest ih =>
      rw [List.dropWhile_cons]
      split
      · exact Nat.le_succ_of_le ih
      · exact Nat.le_refl _

theorem length_closeQuote?_lt {quote : Char} {characters body after : List Char}
    (found : closeQuote? quote characters = some (body, after)) :
    after.length < characters.length := by
  induction characters generalizing body after with
  | nil => simp [closeQuote?] at found
  | cons first rest ih =>
      simp only [closeQuote?] at found
      split at found
      · cases found
        simp
      · obtain ⟨⟨inner, remaining⟩, inside, equal⟩ := Option.map_eq_some_iff.1 found
        cases equal
        have shorter := ih inside
        simp only [List.length_cons]
        omega

theorem length_bareValue?_le {characters after : List Char} {value : TermValue}
    (found : bareValue? characters = some (value, after)) :
    after.length ≤ characters.length := by
  unfold bareValue? at found
  split at found
  · cases found
  · cases found
    exact length_dropWhile_le _ _

theorem length_value?_le {characters after : List Char} {value : TermValue}
    (found : value? characters = some (value, after)) : after.length ≤ characters.length := by
  unfold value? at found
  split at found
  · cases found
  · split at found
    · split at found
      · next inside =>
          cases found
          have shorter := length_closeQuote?_lt inside
          simp only [List.length_cons]
          omega
      · exact length_bareValue?_le found
    · exact length_bareValue?_le found

theorem length_takeSign_le (characters : List Char) :
    (takeSign characters).2.length ≤ characters.length := by
  unfold takeSign
  split
  · simp
  · split <;> simp

/-- What follows an operator is shorter than the text that starts with it. -/
theorem length_term?_lt {characters after : List Char} {term : Term}
    (found : term? characters = some (term, after)) : after.length < characters.length := by
  have afterSign := length_takeSign_le characters
  have afterName := length_dropWhile_le Text.isWord (takeSign characters).2
  simp only [term?] at found
  split at found
  · cases found
  · split at found
    · cases found
    · next remaining =>
        split at found
        · obtain ⟨⟨value, rest⟩, inside, equal⟩ := Option.map_eq_some_iff.1 found
          cases equal
          have afterValue : rest.length ≤ _ := length_value?_le inside
          rw [remaining] at afterName
          simp only [List.length_cons] at afterName ⊢
          omega
        · cases found

/-- A text cut into operators and single characters. -/
inductive Piece where
  | term (term : Term)
  | character (character : Char)
  deriving DecidableEq, Repr

/-- Cut a text into operators and the characters between them; `startAllowed`
tells whether an operator may start here. -/
def pieces (startAllowed : Bool) (characters : List Char) : List Piece :=
  match characters with
  | [] => []
  | first :: rest =>
      if startAllowed then
        match _found : term? (first :: rest) with
        | some (term, after) => .term term :: pieces false after
        | none => .character first :: pieces (Text.isBlank first) rest
      else .character first :: pieces (Text.isBlank first) rest
termination_by characters.length
decreasing_by
  · exact length_term?_lt _found
  · simp
  · simp

/-- The operators among pieces. -/
def termsOf : List Piece → List Term
  | [] => []
  | .term term :: rest => term :: termsOf rest
  | .character _ :: rest => termsOf rest

/-- The characters among pieces, with a space in the place of each operator. -/
def leftOver : List Piece → List Char
  | [] => []
  | .term _ :: rest => ' ' :: leftOver rest
  | .character character :: rest => character :: leftOver rest

/-- The values that an operator gives to its key: a quoted body, or the parts of
a list, in either case without empty ones. -/
def TermValue.values : TermValue → List String
  | .quoted body => if body.isEmpty then [] else [String.ofList body]
  | .bare run =>
      ((Text.splitAt ',' run).filter fun part => !part.isEmpty).map String.ofList

/-- The key of an operator in lower case. -/
def Term.name (term : Term) : String :=
  String.ofList (Text.lowerList term.key)

/-- Add values at the end of those that a key has; a new key goes to the end. -/
def addValues (operators : List (String × List String)) (key : String)
    (values : List String) : List (String × List String) :=
  match operators with
  | [] => [(key, values)]
  | known :: rest =>
      if known.1 == key then (key, known.2 ++ values) :: rest
      else known :: addValues rest key values

/-- Add an operator to those collected so far; without a value it has no
effect. -/
def addTerm (operators : List (String × List String)) (term : Term) :
    List (String × List String) :=
  match term.value.values with
  | [] => operators
  | values => addValues operators term.name values

/-- A parsed search text: the values of each key, keys in lower case and in the
order in which they first got a value, and the free text. -/
structure Query where
  operators : List (String × List String) := []
  freeText : String := ""
  deriving DecidableEq, Repr

/-- Parse a search text. -/
def parse (raw : String) : Query :=
  let found := pieces true raw.toList
  { operators := (termsOf found).foldl addTerm []
    freeText := String.ofList (Text.collapseBlanks (leftOver found)) }

namespace Query

/-- No operators and no free text. -/
def isEmpty (query : Query) : Bool :=
  query.operators.isEmpty && query.freeText.isEmpty

/-- The values of a key in lower case. -/
def get (query : Query) (key : String) : List String :=
  (query.operators.lookup key).getD []

/-- The values of a key in any case, in the order in which they were given. -/
def values (query : Query) (key : String) : List String :=
  query.get (Text.lower key)

/-- The values of the first of several keys that has any. -/
def firstOf (query : Query) : List String → List String
  | [] => []
  | key :: rest =>
      match query.values key with
      | [] => query.firstOf rest
      | values => values

end Query

@[simp] theorem pieces_nil (startAllowed : Bool) : pieces startAllowed [] = [] := by
  simp [pieces]

@[simp] theorem parse_empty : parse "" = {} := by
  simp [parse, termsOf, leftOver, Text.collapseBlanks, Text.joinWith]

end Triage.Search
