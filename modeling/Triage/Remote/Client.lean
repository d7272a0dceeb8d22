import Triage.Json.Body
import Triage.Remote.Profile
import Triage.Remote.Wire
import Triage.Search.Pinned
import Triage.Action.Plan

/-!
# The client of the remote service

The requests that the service understands.  An answer that does not report
success becomes an error by its status, and one whose content cannot be used
becomes an error that says what was expected.
-/

namespace Triage

/-- The service's address and the account that speaks to it. -/
structure Client where
  baseAddress : String
  token : String
  /-- The number of notifications on a page, as settings give it. -/
  perPage : Json
  /-- The room for values that are read from answers or written in requests. -/
  room : Json.Room := .usual
  deriving Repr

namespace Client

/-- The number of notifications on a page unless settings say otherwise. -/
def defaultPerPage : Json := .int 100

/-- The client for an address, which may end in slashes. -/
def make (address token : String) (perPage : Json) : Client where
  baseAddress := Text.stripTrailingSlashes address
  token := token
  perPage := perPage

/-- The header that tells the account by its token. -/
def authorization (token : String) : String :=
  "Bearer " ++ token

/-- The error that a status stands for, or none if it reports success. -/
def statusError? (address : String) (status : Int) (body : String) : Option RemoteError :=
  if 200 ≤ status && status < 300 then none
  else if status == 401 then some .unauthorized
  else if status == 404 then some (.notFound address)
  else if status == 423 || status == 503 then some (.busy status)
  else some (.refused status body)

/-- The content of an answer to a request for the given address. -/
def content (method path address : String) : Reply → Except RemoteError String
  | .lost reason => .error (.lost method path reason)
  | .answer status body =>
      match statusError? address status body with
      | some error => .error error
      | none => .ok body

/-- The address of a path with parameters below the address of the service.
Parameters take the place of a query, and a query without fields is written if
there is any parameter, even one without a value. -/
def extended (base : Address) (path : String) (parameters : Option (List (String × String))) :
    Except AddressFault Address := do
  let address ← base.below path
  match parameters with
  | some given => address.withQuery (Address.queryText given)
  | none => return address

/-- The address to which a path and parameters lead. -/
def address (client : Client) (path : String) (parameters : Option (List (String × String))) :
    Except AddressFault Address := do
  extended (← Address.base client.baseAddress) path parameters

/-- The route of a method and an address. -/
def routeOf (method : String) (address : Address) : String :=
  Wire.route method address.plainPath

/-- The route of a method and a path; a path that leads nowhere has one that no
answer is on. -/
def route (client : Client) (method path : String) : String :=
  match client.address path none with
  | .ok address => routeOf method address
  | .error _ => method

/-- Refuse a header with characters beyond ASCII. -/
def checkHeader (header : String) : Except Error Unit :=
  if (Error.firstBeyondAscii header).2.isEmpty then .ok () else .error (.notAscii header)

/-- The request for a path and parameters, if it can be made. -/
def makeRequest (client : Client) (method path : String)
    (parameters : Option (List (String × String))) : Except Error (Address × Request) := do
  let base ← (Address.base client.baseAddress).mapError .address
  checkHeader (authorization client.token)
  let address ← (extended base path parameters).mapError .address
  if let some fault := address.hostFault? then throw (.address fault)
  checkHeader address.hostText
  return (address,
    { method := method
      address := address.text
      authorization := address.authorization?.getD (authorization client.token) })

/-- The content of an answer, and the address from which it came. -/
structure Response where
  address : String
  body : String
  deriving DecidableEq, Repr

/-- Send a request and wait for the content of its answer. -/
def request (client : Client) (method path : String)
    (parameters : Option (List (String × String))) : RemoteAccess Response := do
  match client.makeRequest method path parameters with
  | .error error => throw error
  | .ok (address, request) =>
      let key := routeOf method address
      let reply := (← get).nextReply key
      modify fun wire => wire.send key request
      match reply, address.answeredFault? with
      | .answer _ _, some fault => throw (.address fault)
      | _, _ =>
          match content method path request.address reply with
          | .ok body => return ⟨request.address, body⟩
          | .error error => throw (.remote error)

/-- The value of an answer's content.  What cannot be read is unusable, unless the reader
has no room for it. -/
def readContent (client : Client) (response : Response) : Except Error Json :=
  match Json.readBody client.room.reading response.body with
  | .ok value => .ok value
  | .error .malformed => .error (.payload (.notJson response.address))
  | .error (.nesting container) => .error (.nesting container)

/-- Send a request and read the content of its answer as JSON. -/
def requestJson (client : Client) (method path : String)
    (parameters : Option (List (String × String))) : RemoteAccess Json := do
  let response ← client.request method path parameters
  MonadExcept.ofExcept (client.readContent response)

/-- Refuse values that cannot be written in a request. -/
def checkWritable (client : Client) (values : List Json) : Except Error Unit :=
  match values.findSome? (Json.plainFault? client.room.writing) with
  | some fault => .error (.unwritten fault)
  | none => .ok ()

/-- A value as a parameter. -/
def parameterText : Json → String
  | .bool true => "true"
  | .bool false => "false"
  | .null => ""
  | value => value.plainText

/-- The values of a parameter that a JSON value gives; a list gives one for each
of its items. -/
def parameterTexts : Json → List String
  | .arr items => items.map parameterText
  | value => [parameterText value]

/-- A parameter for each of its values. -/
def parameter (key : String) (values : List String) : List (String × String) :=
  values.map fun value => (key, value)

/-- A truth value as a parameter. -/
def flagText (value : Bool) : String :=
  if value then "true" else "false"

/-! ## Pages of notifications -/

/-- Which notifications pages hold; nothing where all are meant. -/
structure PageFilter where
  starred : Option Bool := none
  archived : Option Bool := none
  /-- The query, which holds if it counts as given. -/
  query : Json := .null
  deriving DecidableEq, Repr

/-- One page of notifications as the service describes them. -/
structure Page where
  notifications : List Json
  currentPage : Int
  totalPages : Int
  deriving Repr

/-- The path of pages. -/
def pagePath : String := "/api/notifications.json"

/-- The parameters by which a page is asked for. -/
def pageParameters (client : Client) (page : Json) (filter : PageFilter) :
    List (String × String) :=
  parameter "page" (parameterTexts page) ++
    parameter "per_page" (parameterTexts client.perPage) ++
    parameter "starred" (filter.starred.map flagText).toList ++
    parameter "archive" (filter.archived.map flagText).toList ++
    parameter "q" (if filter.query.truthy then parameterTexts filter.query else [])

/-- The integer that a value stands for.  A fraction is cut off; a value that
stands for none is a fault of the whole pagination. -/
def pageNumber (pagination : Json.Fields) : Json → Except Error Int
  | .int value => .ok value
  | .bool value => .ok (if value then 1 else 0)
  | .real (.infinite _) => .error (.overflow .infinite)
  | .real value =>
      match value.truncate? with
      | some whole => .ok whole
      | none => .error (.payload (.pagination (.obj pagination)))
  | .str text =>
      match IntegerText.read? text with
      | some value => .ok value
      | none => .error (.payload (.pagination (.obj pagination)))
  | _ => .error (.payload (.pagination (.obj pagination)))

/-- A value, or another if it does not count as given. -/
def givenOr (value default : Json) : Json :=
  if value.truthy then value else default

/-- The page that the service describes by a value in answer to a request for a
page number. -/
def Page.ofJson (requested : Json) : Json → Except Error Page
  | .obj fields =>
      match givenOr (Json.Fields.getD fields "notifications") (.arr []) with
      | .arr notifications =>
          match givenOr (Json.Fields.getD fields "pagination") (.obj []) with
          | .obj pagination => do
              let current ← pageNumber pagination
                (givenOr (Json.Fields.getD pagination "current_page") requested)
              let total ← pageNumber pagination
                (givenOr (Json.Fields.getD pagination "total_pages") (.int 1))
              return ⟨notifications, current, total⟩
          | _ => .error (.payload .notAPagination)
      | _ => .error (.payload .notAList)
  | _ => .error (.payload .notAPage)

/-- Fetch one page. -/
def fetchPage (client : Client) (page : Json) (filter : PageFilter) : RemoteAccess Page := do
  MonadExcept.ofExcept (client.checkWritable [page, client.perPage, filter.query])
  let value ← client.requestJson "GET" pagePath (some (client.pageParameters page filter))
  MonadExcept.ofExcept (Page.ofJson page value)

/-- Fetch pages from a number on, up to the last page or an empty one, but at
most as many as the first argument says. -/
def fetchFrom (client : Client) (filter : PageFilter) : Nat → Nat → RemoteAccess (List Json)
  | 0, _ => return []
  | most + 1, number => do
      let page ← client.fetchPage (.int number) filter
      if page.notifications.isEmpty then return []
      if page.totalPages ≤ page.currentPage then return page.notifications
      return page.notifications ++ (← client.fetchFrom filter most (number + 1))

/-- Fetch every page.  Each page uses up one of the answers to come, and after
the last of these a page is empty, which bounds the number of pages. -/
def fetchAll (client : Client) (filter : PageFilter) : RemoteAccess (List Json) := do
  let pending := (← get).pending (client.route "GET" pagePath)
  client.fetchFrom filter (pending.length + 1) 1

/-! ## The service's own synchronisation -/

/-- The path by which the service is told to synchronise. -/
def triggerPath : String := "/api/notifications/sync.json"

/-- The path by which the service tells whether it is synchronising. -/
def progressPath : String := "/api/notifications/syncing.json"

/-- Tell the service to synchronise. -/
def triggerSync (client : Client) : RemoteAccess Unit := do
  let _ ← client.request "POST" triggerPath none

/-- Whether the service is synchronising, which it tells by being busy. -/
def isSyncing (client : Client) : RemoteAccess Bool := do
  try
    let _ ← client.request "GET" progressPath none
    return false
  catch
    | .remote (.busy _) => return true
    | error => throw error

/-! ## Mutations -/

/-- The items of a value: those of a list, the characters of a text, or the keys
of an object. -/
def itemsOf? : Json → Option (List Json)
  | .arr items => some items
  | .str text => some (text.toList.map fun character => .str (String.ofList [character]))
  | .halved text => some (text.codes.map fun code => .ofCodes [code])
  | .obj fields => some (fields.map fun field => .str field.1)
  | _ => none

/-- The numbers that a value gives: one, or the items of a value that has
some. -/
def idsOf : Json → Except Error (List Json)
  | .int value => .ok [.int value]
  | .bool value => .ok [.bool value]
  | value =>
      match itemsOf? value with
      | some items => .ok items
      | none => .error (.misuse (.noItems value.kindName))

/-- The numbers of notifications as parameters. -/
def idParameters (ids : List Json) : List (String × String) :=
  parameter "id[]" (ids.map parameterText)

/-- The method, path and parameters of a request. -/
abbrev Call := String × String × Option (List (String × String))

/-- The request that sets or clears the star of one notification. -/
def starCall (id : Json) : Call :=
  ("POST", "/api/notifications/" ++ id.plainText ++ "/star.json", none)

/-- The request for a mutation of several notifications at once. -/
def groupCall (mutation : Mutation) (ids : List Json) : Call :=
  match mutation with
  | .star => starCall (.arr ids)
  | .archive => ("POST", "/api/notifications/archive_selected.json", some (idParameters ids))
  | .unarchive =>
      ("POST", "/api/notifications/archive_selected.json",
        some (idParameters ids ++ [("value", "false")]))
  | .mute => ("POST", "/api/notifications/mute_selected.json", some (idParameters ids))
  | .markRead => ("GET", "/api/notifications/mark_read_selected.json", some (idParameters ids))

/-- The requests for a mutation of notifications.  A star is set or cleared for one
notification at a time. -/
def mutationCalls (mutation : Mutation) (ids : List Int) : List Call :=
  match mutation with
  | .star => ids.map fun id => starCall (.int id)
  | other => [groupCall other (ids.map .int)]

/-- Make a request of which only the success matters. -/
def send (client : Client) (call : Call) : RemoteAccess Unit := do
  let _ ← client.request call.1 call.2.1 call.2.2

/-- Make a request that writes values. -/
def sendWith (client : Client) (values : List Json) (call : Call) : RemoteAccess Unit := do
  MonadExcept.ofExcept (client.checkWritable values)
  client.send call

/-- Ask the service for a mutation of notifications. -/
def mutate (client : Client) (mutation : Mutation) (ids : List Int) : RemoteAccess Unit :=
  match mutation with
  | .star => ids.forM fun id => client.sendWith [.int id] (starCall (.int id))
  | other => client.sendWith (ids.map .int) (groupCall other (ids.map .int))

/-- Ask the service for a mutation of the notifications that a value gives; a
star is set or cleared for whatever it is. -/
def mutateGiven (client : Client) (mutation : Mutation) (value : Json) : RemoteAccess Unit := do
  match mutation with
  | .star => client.sendWith [value] (starCall value)
  | other =>
      match idsOf value with
      | .ok ids => client.sendWith ids (groupCall other ids)
      | .error error => throw error

/-! ## The account -/

/-- The saved searches that the service describes by a value. -/
def pinnedOfJson (value : Json) : Except ListFault (List PinnedSearch) :=
  let items :=
    match value with
    | .obj fields => (Json.Fields.get? fields "pinned_searches").getD (.arr [])
    | other => other
  if items.truthy then
    match itemsOf? items with
    | some items =>
        items.mapM fun item =>
          match PinnedSearch.ofJson item with
          | .ok search => .ok search
          | .error failure => .error (.invalid failure)
    | none => .error (.noItems items.kindName)
  else .ok []

/-- The path of the saved searches. -/
def pinnedPath : String := "/api/pinned_searches.json"

/-- Fetch the saved searches. -/
def pinnedSearches (client : Client) : RemoteAccess (List PinnedSearch) := do
  let value ← client.requestJson "GET" pinnedPath none
  match pinnedOfJson value with
  | .ok searches => return searches
  | .error fault => throw (.payload (.pinned fault))

/-- The object that describes the account: the value itself or the one under
`user`. -/
def profileObject : Json → Json
  | .obj fields =>
      match Json.Fields.getD fields "user" with
      | .obj user => .obj user
      | _ => .obj fields
  | value => value

/-- The path of the account. -/
def profilePath : String := "/api/users/profile.json"

/-- Fetch the account to which the token belongs. -/
def userProfile (client : Client) : RemoteAccess UserProfile := do
  let value ← client.requestJson "GET" profilePath none
  match UserProfile.ofJson (profileObject value) with
  | .ok profile => return profile
  | .error failure => throw (.payload (.profile failure))

end Client

end Triage
