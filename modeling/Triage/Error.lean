import Triage.Json.Room
import Triage.Number.Width
import Triage.Schema.Checked
import Triage.Text.Case

/-!
# Errors

Everything that can go wrong, by cause.  A failed request to the remote service,
an unusable answer from it, an address to which nothing can be sent and a text of
settings that cannot be read have types of their own; all other causes are
constructors of `Error`.  The wording of every cause is in one function per
type.
-/

namespace Triage

/-- A request that brought no usable answer. -/
inductive RemoteError where
  /-- No answer came; the reason is given by the transport. -/
  | lost (method path reason : String)
  | unauthorized
  | notFound (address : String)
  /-- The service is at work on a job that excludes the request. -/
  | busy (status : Int)
  /-- Any other status that does not report success. -/
  | refused (status : Int) (body : String)
  deriving DecidableEq, Repr

namespace RemoteError

/-- The number of characters of an answer that a message shows. -/
def shownCharacters : Nat := 200

/-- The wording of a failed request. -/
def message : RemoteError → String
  | .lost method path reason => "Request failed: " ++ method ++ " " ++ path ++ ": " ++ reason
  | .unauthorized => "Unauthorized: check your API token"
  | .notFound address => "Not found: " ++ address
  | .busy _ => "Service busy (sync in progress?)"
  | .refused status body =>
      "API error: " ++ toString status ++ " - " ++ Text.take shownCharacters body

/-- The status with which the service answered, if it did. -/
def status? : RemoteError → Option Int
  | .lost _ _ _ => none
  | .unauthorized => some 401
  | .notFound _ => some 404
  | .busy status => some status
  | .refused status _ => some status

end RemoteError

/-- Why a notification object cannot be used. -/
inductive RecordFault where
  | invalid (failure : Schema.Failure)
  /-- A value with no fields stands where an object is expected. -/
  | noFields (kind : String)
  deriving DecidableEq, Repr

/-- Why a list of saved searches cannot be used. -/
inductive ListFault where
  | invalid (failure : Schema.Failure)
  /-- A value with no items stands where a list is expected. -/
  | noItems (kind : String)
  deriving DecidableEq, Repr

/-- The attempt to take the items of a value that has none. -/
def noItemsText (kind : String) : String :=
  "'" ++ kind ++ "' object is not iterable"

/-- The attempt to read a field of a value that has none. -/
def noFieldsText (kind : String) : String :=
  "'" ++ kind ++ "' object has no attribute 'get'"

/-- The wording of a record's fault. -/
def RecordFault.message : RecordFault → String
  | .invalid failure => failure.message
  | .noFields kind => noFieldsText kind

/-- The wording of a list's fault. -/
def ListFault.message : ListFault → String
  | .invalid failure => failure.message
  | .noItems kind => noItemsText kind

/-- An answer whose content cannot be used. -/
inductive PayloadError where
  | notJson (address : String)
  | notAPage
  | notAList
  | notAPagination
  | pagination (content : Json)
  | notAnObject (kind : String)
  | notification (id : Json) (fault : RecordFault)
  | pinned (fault : ListFault)
  | profile (failure : Schema.Failure)
  deriving DecidableEq, Repr

namespace PayloadError

/-- The wording of an unusable answer. -/
def message : PayloadError → String
  | .notJson address => "Invalid JSON from " ++ address
  | .notAPage => "Expected a notifications page object"
  | .notAList => "Expected a list of notifications"
  | .notAPagination => "Expected a pagination object"
  | .pagination content => "Malformed pagination: " ++ content.display
  | .notAnObject kind => "Expected notification object, got " ++ kind
  | .notification id fault =>
      "Malformed notification " ++ id.display ++ ": " ++ fault.message
  | .pinned fault => "Malformed pinned searches: " ++ fault.message
  | .profile failure => "Malformed user profile: " ++ failure.message

/-- The failed check behind an unusable answer, if there is one. -/
def failure? : PayloadError → Option Schema.Failure
  | .notification _ (.invalid failure) => some failure
  | .pinned (.invalid failure) => some failure
  | .profile failure => some failure
  | _ => none

end PayloadError

/-- A value of the wrong kind where a number, a text, an object or a moment of
the same sort is needed. -/
inductive Misuse where
  /-- A field is read from a value without fields. -/
  | noFields (kind : String)
  /-- An operation of texts is applied to another value. -/
  | notText (kind operation : String)
  /-- A part of an outcome is read from a value that is none. -/
  | noPart (kind part : String)
  /-- A key is looked up in a text. -/
  | keyOfText
  /-- A key is looked up in a list. -/
  | keyOfList
  /-- A key is looked up in a value without parts. -/
  | noKeys (kind : String)
  /-- A key is set in a value that does not allow it. -/
  | fixedKeys (kind : String)
  /-- The items of a value are taken that has none. -/
  | noItems (kind : String)
  /-- Two values have no order. -/
  | noOrder (left right : String)
  /-- A number of seconds is given by a value that is no number. -/
  | noSeconds (kind : String)
  /-- A value that is no number is to be counted with. -/
  | noInteger (kind : String)
  /-- A time without an offset is subtracted from one with an offset, or the
  other way round. -/
  | mixedOffsets
  /-- A pattern is searched for in a value that is no text. -/
  | notSearchable (kind : String)
  /-- A value that may change is used as a key. -/
  | unhashable (kind : String)
  /-- A value is to fill a column, which only numbers and texts can. -/
  | noWidth (kind : String)
  /-- A statement of the store is given a value that it cannot take. -/
  | unbindable (position : Nat) (kind : String)
  deriving DecidableEq, Repr

/-- The wording of a misuse. -/
def Misuse.message : Misuse → String
  | .noFields kind => noFieldsText kind
  | .notText kind operation => "'" ++ kind ++ "' object has no attribute '" ++ operation ++ "'"
  | .noPart kind part => "'" ++ kind ++ "' object has no attribute '" ++ part ++ "'"
  | .keyOfText => "string indices must be integers, not 'str'"
  | .keyOfList => "list indices must be integers or slices, not str"
  | .noKeys kind => "'" ++ kind ++ "' object is not subscriptable"
  | .fixedKeys kind => "'" ++ kind ++ "' object does not support item assignment"
  | .noItems kind => noItemsText kind
  | .noOrder left right =>
      "'<' not supported between instances of '" ++ left ++ "' and '" ++ right ++ "'"
  | .noSeconds kind => "unsupported type for timedelta seconds component: " ++ kind
  | .noInteger kind => "'" ++ kind ++ "' object cannot be interpreted as an integer"
  | .mixedOffsets => "can't subtract offset-naive and offset-aware datetimes"
  | .notSearchable kind => "expected string or bytes-like object, got '" ++ kind ++ "'"
  | .unhashable kind => "unhashable type: '" ++ kind ++ "'"
  | .noWidth kind => "unsupported format string passed to " ++ kind ++ ".__format__"
  | .unbindable position kind =>
      "Error binding parameter " ++ toString position ++ ": type '" ++ kind ++
        "' is not supported"

/-- The misuse of a value that is no object as one whose key is read. -/
def Misuse.ofKeyRead : Json → Misuse
  | .str _ => .keyOfText
  | .arr _ => .keyOfList
  | value => .noKeys value.kindName

/-- The misuse of a value that is no object as one whose key is set. -/
def Misuse.ofKeyWrite : Json → Misuse
  | .arr _ => .keyOfList
  | value => .fixedKeys value.kindName

/-- A quantity that does not fit where it has to go. -/
inductive Overflow where
  /-- An integer beyond 64 bits. -/
  | storedInteger
  /-- A time outside years 1 to 9999. -/
  | time
  /-- An infinite number where an integer is needed. -/
  | infinite
  /-- A duration of more days than can be held. -/
  | days (count : Int)
  /-- A pause of more seconds than the clock can hold. -/
  | pause
  /-- A pause of more seconds, counted with a fraction, than the clock can hold. -/
  | finePause
  deriving DecidableEq, Repr

/-- The wording of an overflow. -/
def Overflow.message : Overflow → String
  | .storedInteger => "Python int too large to convert to SQLite INTEGER"
  | .time => "date value out of range"
  | .infinite => "cannot convert float infinity to integer"
  | .days count =>
      if Width.fits 32 count then
        "days=" ++ toString count ++ "; must have magnitude <= 999999999"
      else "Python int too large to convert to C int"
  | .pause => "timestamp too large to convert to C _PyTime_t"
  | .finePause => "timestamp out of range for platform time_t"

/-- A value of the right kind that is not one of those allowed. -/
inductive Refusal where
  | fields (names : List String)
  | view (name : String)
  | action (name : String)
  | severalRecords (action : String)
  /-- A number that is none where an integer is needed. -/
  | notANumber
  | phase (value : Json)
  /-- A pause shorter than none. -/
  | negativePause
  /-- A pause of a number of seconds that is none. -/
  | pauseOfNoNumber
  deriving DecidableEq, Repr

/-- The wording of a refusal. -/
def Refusal.message : Refusal → String
  | .fields names => "Cannot patch fields: " ++ ", ".intercalate names
  | .view name => "Unknown view: " ++ name
  | .action name => "Unknown action: " ++ name
  | .severalRecords name => name ++ " applies to a single notification"
  | .notANumber => "cannot convert float NaN to integer"
  | .phase value => value.display ++ " is not a valid SyncPhase"
  | .negativePause => "sleep length must be non-negative"
  | .pauseOfNoNumber => "Invalid value NaN (not a number)"

/-- The kinds of failure that a background task may report of itself. -/
inductive ReportKind where
  | value
  | key
  | general
  | remote
  | authentication
  | notFound
  | busy
  | payload
  deriving DecidableEq, Repr

/-- Why a text of settings cannot be read. -/
inductive SettingsFault where
  | malformed
  /-- An integer has more digits than are read. -/
  | digits (limit count : Nat)
  /-- Arrays and tables within each other are too deep. -/
  | nesting (limit : Nat)
  /-- A key has too many parts. -/
  | keyParts (limit : Nat)
  deriving DecidableEq, Repr

/-- The wording of a fault of settings, given the words in which the reader complains
about a malformed text. -/
def SettingsFault.message (complaint : String) : SettingsFault → String
  | .malformed => complaint
  | .digits limit count =>
      "Exceeds the limit (" ++ toString limit ++
        " digits) for integer string conversion: value has " ++ toString count ++
        " digits; use sys.set_int_max_str_digits() to increase the limit"
  | .nesting limit =>
      "TOML inline arrays/tables are nested more than the allowed " ++ toString limit ++ " levels"
  | .keyParts limit => "TOML key has more than the allowed " ++ toString limit ++ " parts"

/-- Why a label cannot be part of a host's name.  Labels are given by their code
points, which need not be characters. -/
inductive LabelFault where
  | empty
  /-- A mark and the character before it are not written as their composite, or
  marks are out of order. -/
  | notNormal
  | innerHyphens
  | outerHyphen
  | initialMark
  /-- A joiner stands where nothing can be joined. -/
  | joiner (code position : Nat) (label : List Nat)
  /-- Nothing is known of the character before a joiner. -/
  | unknownNeighbour (code position : Nat) (label : List Nat)
  /-- A character stands beside others than those that allow it. -/
  | context (code position : Nat) (label : List Nat)
  | character (code position : Nat) (label : List Nat)
  | unknownDirection (position : Nat) (label : List Nat)
  | firstDirection (label : List Nat)
  | rightToLeft (position : Nat)
  | leftToRight (position : Nat)
  | mixedNumbers
  | lastDirection
  | noContent
  | lastHyphen
  | undecodable
  /-- What an encoded label stands for is encoded otherwise. -/
  | notCanonical
  /-- All labels together are too long. -/
  | nameTooLong
  deriving DecidableEq, Repr

namespace LabelFault

/-- A code point in its usual notation. -/
def codeText (code : Nat) : String :=
  let digits := (Nat.toDigits 16 code).map Text.asciiUpperChar
  "U+" ++ String.ofList (List.replicate (4 - digits.length) '0' ++ digits)

/-- The wording of a label's fault. -/
def message : LabelFault → String
  | .empty => "Empty Label"
  | .notNormal => "Label must be in Normalization Form C"
  | .innerHyphens => "Label has disallowed hyphens in 3rd and 4th position"
  | .outerHyphen => "Label must not start or end with a hyphen"
  | .initialMark => "Label begins with an illegal combining character"
  | .joiner code position label =>
      "Joiner " ++ codeText code ++ " not allowed at position " ++ toString position ++ " in " ++
        Text.quotedCodes label
  | .unknownNeighbour code position label =>
      "Unknown codepoint adjacent to joiner " ++ codeText code ++ " at position " ++
        toString position ++ " in " ++ Text.quotedCodes label
  | .context code position label =>
      "Codepoint " ++ codeText code ++ " not allowed at position " ++ toString position ++
        " in " ++ Text.quotedCodes label
  | .character code position label =>
      "Codepoint " ++ codeText code ++ " at position " ++ toString position ++ " of " ++
        Text.quotedCodes label ++ " not allowed"
  | .unknownDirection position label =>
      "Unknown directionality in label " ++ Text.quotedCodes label ++ " at position " ++
        toString position
  | .firstDirection label =>
      "First codepoint in label " ++ Text.quotedCodes label ++
        " must be directionality L, R or AL"
  | .rightToLeft position =>
      "Invalid direction for codepoint at position " ++ toString position ++
        " in a right-to-left label"
  | .leftToRight position =>
      "Invalid direction for codepoint at position " ++ toString position ++
        " in a left-to-right label"
  | .mixedNumbers => "Can not mix numeral types in a right-to-left label"
  | .lastDirection => "Label ends with illegal codepoint directionality"
  | .noContent => "Malformed A-label, no Punycode eligible content found"
  | .lastHyphen => "A-label must not end with a hyphen"
  | .undecodable => "Invalid A-label"
  | .notCanonical => "A-label is not the canonical Punycode encoding of its U-label"
  | .nameTooLong => "Domain too long"

end LabelFault

/-- Why what stands between brackets in the place of a host is none. -/
inductive BracketFault where
  /-- A bracket has no partner. -/
  | alone
  /-- A later version's form begins, but does not go on as it should. -/
  | laterVersion
  /-- The text is no number of a host. -/
  | notNumeric (text : String)
  /-- Four octets do not belong between brackets. -/
  | fourOctets
  deriving DecidableEq, Repr

/-- The wording of a fault of brackets. -/
def BracketFault.message : BracketFault → String
  | .alone => "Invalid IPv6 URL"
  | .laterVersion => "IPvFuture address is invalid"
  | .notNumeric text => Text.quoted text ++ " does not appear to be an IPv4 or IPv6 address"
  | .fourOctets => "An IPv4 address cannot be in brackets"

/-- Why a text is no address to which a request can go. -/
inductive AddressFault where
  | tooLong
  /-- A part of the address is too long once it is encoded. -/
  | partTooLong (part : String)
  | control (character : Char) (position : Nat)
  | port (text : String)
  | fourNumbers (host : String)
  | bracketed (host : String)
  | name (host : String)
  /-- A host in encoded form does not stand for a name. -/
  | label (fault : LabelFault)
  /-- A path without a host may not begin so. -/
  | pathStart (start : String)
  /-- Nothing tells how to reach the address. -/
  | noScheme (address : String)
  /-- The brackets in the place of a host do not hold one. -/
  | brackets (fault : BracketFault)
  deriving DecidableEq, Repr

/-- The wording of an address's fault. -/
def AddressFault.message : AddressFault → String
  | .tooLong => "URL too long"
  | .partTooLong part => "URL component '" ++ part ++ "' too long"
  | .control character position =>
      "Invalid non-printable ASCII character in URL, " ++
        Text.quoted (String.ofList [character]) ++ " at position " ++ toString position ++ "."
  | .port text => "Invalid port: " ++ Text.quoted text
  | .fourNumbers host => "Invalid IPv4 address: " ++ Text.quoted host
  | .bracketed host => "Invalid IPv6 address: " ++ Text.quoted host
  | .name host => "Invalid IDNA hostname: " ++ Text.quoted host
  | .label fault => fault.message
  | .pathStart start => "Relative URLs cannot have a path starting with '" ++ start ++ "'"
  | .noScheme address => "unknown url type: " ++ Text.quoted address
  | .brackets fault => fault.message

/-- Why a file or a directory cannot be used as what it is needed for. -/
inductive FileFault where
  /-- A directory stands in the place of a file. -/
  | isDirectory (path : String)
  /-- A file stands above the directory. -/
  | notDirectory (path : String)
  /-- A file stands in the place of the directory. -/
  | occupied (path : String)
  deriving DecidableEq, Repr

/-- The wording of a fault of a file. -/
def FileFault.message : FileFault → String
  | .isDirectory path => "[Errno 21] Is a directory: " ++ Text.quoted path
  | .notDirectory path => "[Errno 20] Not a directory: " ++ Text.quoted path
  | .occupied path => "[Errno 17] File exists: " ++ Text.quoted path

/-- Why an operation failed. -/
inductive Error where
  | remote (failure : RemoteError)
  | payload (failure : PayloadError)
  | noToken
  | invalid (failure : Schema.Failure)
  | misuse (cause : Misuse)
  | overflow (cause : Overflow)
  | refusal (cause : Refusal)
  /-- A required column is absent. -/
  | missingColumn (name : String)
  /-- The store's file holds something else. -/
  | notAStore
  /-- There cannot be a store where it belongs. -/
  | noStorePlace
  | file (fault : FileFault)
  /-- A header holds characters beyond ASCII. -/
  | notAscii (header : String)
  /-- A text has no bytes. -/
  | unencodable (text : Text.Halved)
  /-- There is no room to read what begins within other values. -/
  | nesting (container : Json.Container)
  /-- A value cannot be written. -/
  | unwritten (fault : Json.WritingFault)
  /-- Settings cannot be read; the reader has words of its own for a malformed text. -/
  | settings (fault : SettingsFault) (complaint : String)
  | address (fault : AddressFault)
  | reported (kind : ReportKind) (text : String)
  deriving DecidableEq, Repr

namespace Error

/-- The characters beyond ASCII that come first in a text, without a gap, and
their position. -/
def firstBeyondAscii (text : String) : Nat × List Char :=
  let ascii := fun character : Char => character.toNat < 128
  let rest := text.toList.dropWhile ascii
  ((text.toList.takeWhile ascii).length, rest.takeWhile fun character => !ascii character)

/-- The wording for a header with characters beyond ASCII. -/
def notAsciiText (header : String) : String :=
  let found := firstBeyondAscii header
  Text.encodingText "ascii" found.1 (found.2.map Char.toNat) "ordinal not in range(128)"

/-- The wording for a container for which there is no room. -/
def nestingText (container : Json.Container) : String :=
  "maximum recursion depth exceeded while decoding a JSON " ++ container.name ++
    " from a unicode string"

/-- The wording of an error. -/
def message : Error → String
  | .remote failure => failure.message
  | .payload failure => failure.message
  | .noToken => "No API token. Run 'tidings login' or set TIDINGS_API_TOKEN."
  | .invalid failure => failure.message
  | .misuse cause => cause.message
  | .overflow cause => cause.message
  | .refusal cause => cause.message
  | .missingColumn name => Text.quoted name
  | .notAStore => "file is not a database"
  | .noStorePlace => "unable to open database file"
  | .file fault => fault.message
  | .notAscii header => notAsciiText header
  | .unencodable text =>
      Text.encodingText "utf-8" text.first.1 text.first.2 "surrogates not allowed"
  | .nesting container => nestingText container
  | .unwritten fault => fault.message
  | .settings fault complaint => fault.message complaint
  | .address fault => fault.message
  | .reported .key text => Text.quoted text
  | .reported _ text => text

/-- Whether the error is one of those that talking to the remote service is
expected to bring. -/
def isTyped : Error → Bool
  | .remote _ => true
  | .payload _ => true
  | .noToken => true
  | _ => false

/-- The failed check behind an error, if there is one. -/
def failure? : Error → Option Schema.Failure
  | .invalid failure => some failure
  | .payload failure => failure.failure?
  | _ => none

end Error

end Triage
