import Triage.Host.Name
import Triage.Host.Numeric
import Triage.Number.IntegerText
import Triage.Text.Base64
import Triage.Text.Percent

/-!
# Addresses

The address of a request in its parts.  Reading an address brings each part into
the form in which it is sent: characters that may not occur are percent-encoded,
a host in other letters is encoded, and a port that the scheme implies is left
out.  An address that is made from another one is read anew.
-/

namespace Triage

/-- The parts of an address as they are written. -/
structure AddressParts where
  scheme : String := ""
  /-- The account, the host and the port. -/
  authority : String := ""
  path : String := ""
  query : Option String := none
  fragment : Option String := none
  deriving DecidableEq, Repr

/-- An address in the form in which it is sent. -/
structure Address where
  scheme : String
  /-- The account that the address names. -/
  userInfo : String
  host : String
  port : Option Int
  path : String
  query : Option String
  fragment : Option String
  deriving DecidableEq, Repr

namespace AddressParts

/-- The most characters of an address and of each of its parts. -/
def limit : Nat := 65536

/-- Whether a character may follow the first letter of a scheme. -/
def isSchemeChar (character : Char) : Bool :=
  character.isAlphanum || character == '+' || character == '.' || character == '-'

/-- The scheme in front of a colon, which may be empty, and what follows. -/
def splitScheme (characters : List Char) : List Char × List Char :=
  let scheme :=
    if characters.head?.any Char.isAlpha then characters.takeWhile isSchemeChar else []
  match characters.drop scheme.length with
  | ':' :: rest => (scheme, rest)
  | _ => ([], characters)

/-- The authority behind two slashes, and what follows. -/
def splitAuthority : List Char → List Char × List Char
  | '/' :: '/' :: rest =>
      rest.span fun character => character != '/' && character != '?' && character != '#'
  | rest => ([], rest)

/-- The part behind a character that introduces it, up to a character that ends
it, and what follows. -/
def splitPart (start : Char) (isEnd : Char → Bool) :
    List Char → Option String × List Char
  | [] => (none, [])
  | character :: rest =>
      if character == start then
        let cut := rest.span fun character => !isEnd character
        (some (String.ofList cut.1), cut.2)
      else (none, character :: rest)

/-- The parts of a text. -/
def ofText (text : String) : AddressParts :=
  let scheme := splitScheme text.toList
  let authority := splitAuthority scheme.2
  let path := authority.2.span fun character => character != '?' && character != '#'
  let query := splitPart '?' (· == '#') path.2
  let fragment := splitPart '#' (fun _ => false) query.2
  { scheme := String.ofList scheme.1
    authority := String.ofList authority.1
    path := String.ofList path.1
    query := query.1
    fragment := fragment.1 }

/-- The parts that can be too long, by their names. -/
def named (parts : AddressParts) : List (String × String) :=
  [("scheme", parts.scheme), ("authority", parts.authority), ("path", parts.path),
    ("query", parts.query.getD ""), ("fragment", parts.fragment.getD "")]

/-- The first part that is too long. -/
def lengthFault? (parts : AddressParts) : Option AddressFault :=
  (parts.named.find? fun part => limit < part.2.length).map fun part => .partTooLong part.1

end AddressParts

namespace Address

/-! ## Characters that are sent as they are -/

/-- Whether an ASCII character has a visible form and is not one of those
given. -/
def isVisibleBut (others : List Char) (character : Char) : Bool :=
  32 < character.toNat && character.toNat < 127 && !others.contains character

/-- The grave accent. -/
def grave : Char := Char.ofNat 0x60

/-- Characters of a fragment. -/
def isFragmentChar : Char → Bool :=
  isVisibleBut ['"', '<', '>', grave]

/-- Characters of a query. -/
def isQueryChar : Char → Bool :=
  isVisibleBut ['"', '#', '<', '>']

/-- The characters that a path may not hold. -/
def notInPath : List Char :=
  ['"', '#', '<', '>', '?', grave, '\x7b', '\x7d']

/-- Characters of a path. -/
def isPathChar : Char → Bool :=
  isVisibleBut notInPath

/-- Characters of an account. -/
def isUserInfoChar : Char → Bool :=
  isVisibleBut (notInPath ++ ['/', ';', '=', '@', '[', '\\', ']', '^', '|'])

/-- Characters of a host in ASCII. -/
def isHostChar (character : Char) : Bool :=
  Text.Percent.isUnreserved character ||
    ['!', '$', '&', '\'', '(', ')', '*', '+', ',', ';', '=', '"', grave, '\x7b', '\x7d', '%',
      '|', '\\'].contains character

/-- A part with every other character percent-encoded. -/
def encodePart (safe : Char → Bool) (text : String) : String :=
  String.ofList (Text.Percent.encode safe text.toList)

/-! ## Reading the parts -/

/-- The account, the host and the port that an authority names.  The last at sign
ends the account, and a host between brackets may hold colons. -/
def splitAuthority (authority : List Char) : List Char × List Char × List Char :=
  let behind := (authority.reverse.takeWhile (· != '@')).reverse
  let userInfo := authority.take (authority.length - behind.length - 1)
  let host :=
    if behind.head? == some '[' && behind.contains ']' then
      (behind.reverse.dropWhile (· != ']')).reverse
    else behind.takeWhile (· != ':')
  let port :=
    match behind.drop host.length with
    | ':' :: rest => rest
    | rest => rest
  (userInfo, host, port)

/-- The form in which a host is sent, without brackets. -/
def readHost (host : List Char) : Except AddressFault String :=
  let text := String.ofList host
  if host.isEmpty then .ok ""
  else if Host.Numeric.looksLikeNumbers host then
    if Host.Numeric.isFourOctets host then .ok text else .error (.fourNumbers text)
  else if host.head? == some '[' && host.getLast? == some ']' then
    let inner := (host.drop 1).dropLast
    if Host.Numeric.isGrouped inner then .ok (String.ofList inner) else .error (.bracketed text)
  else
    let lower := Text.lowerList host
    if host.all fun character => character.toNat < 128 then
      .ok (encodePart isHostChar (String.ofList lower))
    else
      match Host.Name.toAscii? lower with
      | some encoded => .ok (String.ofList encoded)
      | none => .error (.name text)

/-- The port that a scheme implies. -/
def impliedPort? (scheme : String) : Option Int :=
  match scheme with
  | "ftp" => some 21
  | "http" => some 80
  | "https" => some 443
  | "ws" => some 80
  | "wss" => some 443
  | _ => none

/-- The port that a text gives, unless the scheme implies it. -/
def readPort (scheme : String) (text : String) : Except AddressFault (Option Int) :=
  if text.isEmpty then .ok none
  else
    match IntegerText.read? text with
    | some port => .ok (if impliedPort? scheme == some port then none else some port)
    | none => .error (.port text)

/-- The steps of a path that are left when double points cancel the steps before
them and single points do not count; `before` are steps in reverse order.  A
leading slash cannot be cancelled. -/
def cancelSteps (before : List (List Char)) : List (List Char) → List (List Char)
  | [] => before.reverse
  | step :: rest =>
      if step == ['.'] then cancelSteps before rest
      else if step == ['.', '.'] then
        cancelSteps (if before == [[]] then before else before.tail) rest
      else cancelSteps (step :: before) rest

/-- A path without single and double points. -/
def withoutPoints (path : String) : String :=
  String.ofList (Text.joinWith ['/'] (cancelSteps [] (Text.splitAt '/' path.toList)))

/-- What is wrong with the start of a path that has nothing in front. -/
def pathFault? (path : String) : Option AddressFault :=
  match path.toList with
  | '/' :: '/' :: _ => some (.pathStart "//")
  | ':' :: _ => some (.pathStart ":")
  | _ => none

/-- The address of written parts. -/
def ofParts (parts : AddressParts) : Except AddressFault Address := do
  let authority := splitAuthority parts.authority.toList
  let userInfo := encodePart isUserInfoChar (String.ofList authority.1)
  let host ← readHost authority.2.1
  let port ← readPort parts.scheme (String.ofList authority.2.2)
  let isBare := parts.scheme.isEmpty && userInfo.isEmpty && host.isEmpty && port.isNone
  if isBare then
    if let some fault := pathFault? parts.path then throw fault
  let path := if isBare then parts.path else withoutPoints parts.path
  return {
    scheme := Text.asciiLower parts.scheme
    userInfo := userInfo
    host := host
    port := port
    path := encodePart isPathChar path
    query := parts.query.map (encodePart isQueryChar)
    fragment := parts.fragment.map (encodePart isFragmentChar) }

/-- Whether a character is an ASCII control. -/
def isControl (character : Char) : Bool :=
  character.toNat < 32 || character.toNat == 127

/-- What is wrong with the text of an address before its parts are looked at. -/
def textFault? (text : String) : Option AddressFault :=
  if AddressParts.limit < text.length then some .tooLong
  else
    match text.toList.findIdx? isControl with
    | some position => some (.control (text.toList.getD position ' ') position)
    | none => none

/-- The address of a text. -/
def ofText (text : String) : Except AddressFault Address :=
  match textFault? text with
  | some fault => .error fault
  | none => ofParts (AddressParts.ofText text)

/-! ## Writing -/

/-- The authority without the account. -/
def hostText (address : Address) : String :=
  (if address.host.toList.contains ':' then "[" ++ address.host ++ "]" else address.host) ++
    match address.port with
    | some port => ":" ++ toString port
    | none => ""

/-- The parts of an address. -/
def parts (address : Address) : AddressParts where
  scheme := address.scheme
  authority := (if address.userInfo.isEmpty then "" else address.userInfo ++ "@") ++
    address.hostText
  path := address.path
  query := address.query
  fragment := address.fragment

/-- The text of an address. -/
def text (address : Address) : String :=
  let parts := address.parts
  (if parts.scheme.isEmpty then "" else parts.scheme ++ ":") ++
    (if parts.authority.isEmpty then "" else "//" ++ parts.authority) ++ parts.path ++
    (parts.query.map ("?" ++ ·)).getD "" ++ (parts.fragment.map ("#" ++ ·)).getD ""

/-- The path, which is a slash if it is empty. -/
def givenPath (address : Address) : String :=
  if address.path.isEmpty then "/" else address.path

/-- The path and the query. -/
def target (address : Address) : String :=
  address.givenPath ++ (address.query.map ("?" ++ ·)).getD ""

/-- The path in its own characters. -/
def plainPath (address : Address) : String :=
  String.ofList (Text.Percent.decode address.givenPath.toList)

/-! ## Addresses made from others -/

/-- The address of parts that come from another one. -/
def ofChangedParts (parts : AddressParts) : Except AddressFault Address :=
  match parts.lengthFault? with
  | some fault => .error fault
  | none => ofParts parts

/-- The address with another path and query, which its first question mark
divides. -/
def withTarget (address : Address) (target : String) : Except AddressFault Address :=
  let path := target.toList.span (· != '?')
  ofChangedParts { address.parts with
    path := String.ofList path.1
    query := (AddressParts.splitPart '?' (fun _ => false) path.2).1 }

/-- The address with another query. -/
def withQuery (address : Address) (query : String) : Except AddressFault Address :=
  ofChangedParts { address.parts with query := some query }

/-- The address of a service, whose target ends in a slash. -/
def base (text : String) : Except AddressFault Address := do
  let address ← ofText text
  if Text.endsWith "/" address.target then return address
  else address.withTarget (address.target ++ "/")

/-- The address of a path below the address of a service.  The path, with a query
if it has one, goes to the end of the target, even if that is a query. -/
def below (base : Address) (path : String) : Except AddressFault Address := do
  let relative ← ofText path
  base.withTarget (base.target ++ String.ofList (relative.target.toList.dropWhile (· == '/')))

/-- Parameters in their order as a query. -/
def queryText (parameters : List (String × String)) : String :=
  String.ofList (Text.joinWith ['&'] (parameters.map fun parameter =>
    Text.Percent.form parameter.1.toList ++ '=' :: Text.Percent.form parameter.2.toList))

/-! ## Requests -/

/-- The header that tells the account which the address names, if it does. -/
def authorization? (address : Address) : Option String :=
  let parts := address.userInfo.toList.span (· != ':')
  let name := Text.Percent.decode parts.1
  let password := Text.Percent.decode (parts.2.drop 1)
  if name.isEmpty && password.isEmpty then none
  else
    some ("Basic " ++ String.ofList
      (Text.Base64.encode (Text.utf8 (name ++ ':' :: password))))

/-- What is wrong with the host when a request is made. -/
def hostFault? (address : Address) : Option AddressFault :=
  (Host.Name.asciiFault? address.host.toList).map .label

/-- Whether a text begins with the name of a scheme. -/
def namesScheme (text : String) : Bool :=
  let parts := text.toList.span fun character => character != '/' && character != ':'
  !parts.1.isEmpty && parts.2.head? == some ':'

/-- A text before its last number sign. -/
def beforeLastSign (text : String) : String :=
  if text.toList.contains '#' then
    String.ofList ((text.toList.reverse.dropWhile (· != '#')).drop 1).reverse
  else text

/-- Whether a text has the form that later versions of host numbers begin with:
a letter, a hexadecimal version, a point and more. -/
def isLaterVersion : List Char → Bool
  | 'v' :: rest =>
      let version := rest.takeWhile fun digit => (Text.hexValue? digit).isSome
      let after := rest.drop version.length
      !version.isEmpty && after.head? == some '.' && 1 < after.length
  | _ => false

/-- What is wrong with the text between brackets in the place of a host. -/
def bracketedFault? (text : List Char) : Option BracketFault :=
  if text.head? == some 'v' then
    if isLaterVersion text then none else some .laterVersion
  else if Host.Numeric.isFourOctets text then some .fourOctets
  else if Host.Numeric.isGrouped text then none
  else some (.notNumeric (String.ofList text))

/-- What is wrong with the brackets of a text in the place of a host.  The first
opening bracket counts, and the first closing one behind it, or the end. -/
def bracketFault? (host : List Char) : Option BracketFault :=
  if host.contains '[' != host.contains ']' then some .alone
  else if host.contains '[' then
    bracketedFault? (((host.dropWhile (· != '[')).drop 1).takeWhile (· != ']'))
  else none

/-- A text without the mark that may stand in front of an address. -/
def unmarked (text : String) : String :=
  if "URL:".toList.isPrefixOf text.toList then String.ofList (text.toList.drop 4) else text

/-- What is wrong with an address once it has been answered.  Its text is read
again: it has to name a scheme, and what stands in the place of a host may have
brackets only around the number of one.  A number sign at the end does not
count. -/
def answeredFault? (address : Address) : Option AddressFault :=
  let text := unmarked address.text
  let shown := if Text.endsWith "#" text then Text.dropLast text else text
  if !namesScheme (beforeLastSign text) then some (.noScheme shown)
  else (bracketFault? (AddressParts.ofText shown).authority.toList).map .brackets

/-- A host without brackets has nothing wrong with them. -/
theorem bracketFault?_eq_none {host : List Char} (opening : '[' ∉ host) (closing : ']' ∉ host) :
    bracketFault? host = none := by
  simp [bracketFault?, opening, closing]

/-- A port that is implied is not part of the address. -/
theorem readPort_implied {scheme text : String} {port : Int}
    (reads : IntegerText.read? text = some port) (implied : impliedPort? scheme = some port) :
    readPort scheme text = .ok none := by
  by_cases empty : text.isEmpty <;> simp [readPort, empty, reads, implied]

end Address

end Triage
