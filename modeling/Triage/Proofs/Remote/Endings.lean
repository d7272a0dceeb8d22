import Triage.Proofs.Remote.Route

/-!
# How calls of the service end

Whatever the service answers, a call ends with a value or with an error that tells what the
answer was: no answer, a status that does not report success, or content that cannot be used.
Errors of other kinds come out where no request can be made of an address, a header or the
values that it writes, where a page has an infinite number, and where there is no room to read
the content.
-/

namespace Triage.Client

variable {client : Client} {wire after : Wire}

/-! ## One request -/

/-- The error for which a reply without content stands. -/
inductive Fails (method path address : String) : Reply → RemoteError → Prop where
  | lost (reason : String) : Fails method path address (.lost reason) (.lost method path reason)
  | unauthorized (body : String) : Fails method path address (.answer 401 body) .unauthorized
  | notFound (body : String) : Fails method path address (.answer 404 body) (.notFound address)
  | busy {status : Int} (body : String) (known : status = 423 ∨ status = 503) :
      Fails method path address (.answer status body) (.busy status)
  | refused {status : Int} (body : String) (failed : ¬ (200 ≤ status ∧ status < 300))
      (other : status ∉ [401, 404, 423, 503]) :
      Fails method path address (.answer status body) (.refused status body)

/-- The status of a reply, if it is an answer. -/
def statusOf? : Reply → Option Int
  | .answer status _ => some status
  | .lost _ => none

theorem Fails.status?_eq {method path address : String} {reply : Reply} {error : RemoteError}
    (fails : Fails method path address reply error) : error.status? = statusOf? reply := by
  cases fails <;> rfl

theorem content_cases (method path address : String) (reply : Reply) :
    (∃ status body, reply = .answer status body ∧ 200 ≤ status ∧ status < 300 ∧
      content method path address reply = .ok body) ∨
    ∃ error, content method path address reply = .error error ∧
      Fails method path address reply error := by
  cases reply with
  | lost reason => exact .inr ⟨_, rfl, .lost reason⟩
  | answer status body =>
      by_cases success : 200 ≤ status ∧ status < 300
      · refine .inl ⟨status, body, rfl, success.1, success.2, ?_⟩
        simp [content, statusError?, success]
      · have failure : ∃ error, statusError? address status body = some error ∧
            Fails method path address (.answer status body) error := by
          rw [statusError?, if_neg (by simpa using success)]
          by_cases unauthorized : status = 401
          · subst unauthorized
            exact ⟨_, rfl, .unauthorized body⟩
          by_cases unknown : status = 404
          · subst unknown
            exact ⟨_, rfl, .notFound body⟩
          by_cases busy : status = 423 ∨ status = 503
          · exact ⟨_, by simp [unauthorized, unknown, busy], .busy body busy⟩
          · have other : status ∉ [401, 404, 423, 503] := by simp; omega
            exact ⟨_, by simp [unauthorized, unknown, busy], .refused body success other⟩
        obtain ⟨error, known, fails⟩ := failure
        exact .inr ⟨error, by rw [content, known], fails⟩

/-- What comes of the request for a call.  The error of a failure has the status of the answer,
or none if there was no answer. -/
inductive Exchange (client : Client) (call : Call) (wire : Wire) :
    Except Error Response × Wire → Prop where
  /-- No request can be made. -/
  | unsent {error : Error}
      (impossible : client.makeRequest call.1 call.2.1 call.2.2 = .error error) :
      Exchange client call wire (.error error, wire)
  /-- There is an answer, but the address to which it belongs cannot be read. -/
  | unread {address : Address} {request : Request} {status : Int} {body : String}
      {fault : AddressFault}
      (made : client.makeRequest call.1 call.2.1 call.2.2 = .ok (address, request))
      (reply : wire.nextReply (client.route call.1 call.2.1) = .answer status body)
      (unreadable : address.answeredFault? = some fault) :
      Exchange client call wire
        (.error (.address fault), wire.send (client.route call.1 call.2.1) request)
  | failed {address : Address} {request : Request} {error : RemoteError}
      (made : client.makeRequest call.1 call.2.1 call.2.2 = .ok (address, request))
      (readable : ∀ status body,
        wire.nextReply (client.route call.1 call.2.1) = .answer status body →
          address.answeredFault? = none)
      (fails : Fails call.1 call.2.1 request.address
        (wire.nextReply (client.route call.1 call.2.1)) error)
      (status : error.status? = statusOf? (wire.nextReply (client.route call.1 call.2.1))) :
      Exchange client call wire
        (.error (.remote error), wire.send (client.route call.1 call.2.1) request)
  | answered {address : Address} {request : Request} {status : Int} {body : String}
      (made : client.makeRequest call.1 call.2.1 call.2.2 = .ok (address, request))
      (reply : wire.nextReply (client.route call.1 call.2.1) = .answer status body)
      (readable : address.answeredFault? = none)
      (success : 200 ≤ status ∧ status < 300) :
      Exchange client call wire
        (.ok ⟨request.address, body⟩, wire.send (client.route call.1 call.2.1) request)

theorem exchange_request (client : Client) (call : Call) (wire : Wire) :
    client.Exchange call wire ((client.request call.1 call.2.1 call.2.2).run wire) := by
  cases made : client.makeRequest call.1 call.2.1 call.2.2 with
  | error error =>
      have ran : (client.request call.1 call.2.1 call.2.2).run wire = (.error error, wire) := by
        rw [request, made]
        rfl
      rw [ran]
      exact .unsent made
  | ok found =>
      obtain ⟨address, request⟩ := found
      rw [Client.request, made]
      simp only [routeOf_makeRequest made, Work.run_bind, Work.run_get, Work.run_modify]
      generalize replied : wire.nextReply (client.route call.1 call.2.1) = reply
      generalize fault : address.answeredFault? = unreadable
      split
      · exact .unread made replied fault
      · next plain =>
          have readable (status : Int) (body : String) (answer : reply = .answer status body) :
              address.answeredFault? = none := by
            rw [fault, Option.eq_none_iff_forall_ne_some]
            exact fun found same => plain status body found answer same
          rcases content_cases call.1 call.2.1 request.address reply with
            ⟨status, body, answer, least, most, usable⟩ | ⟨error, failed, fails⟩
          · rw [usable]
            exact .answered made (replied.trans answer) (readable status body answer) ⟨least, most⟩
          · rw [failed]
            subst replied
            exact .failed made readable fails fails.status?_eq

/-- What keeps a request from being made is none of the expected errors. -/
theorem isTyped_of_makeRequest {method path : String}
    {parameters : Option (List (String × String))} {error : Error}
    (impossible : client.makeRequest method path parameters = .error error) :
    error.isTyped = false := by
  have address {α : Type} {outcome : Except AddressFault α}
      (failed : outcome.mapError .address = .error error) : error.isTyped = false := by
    obtain ⟨fault, _, rfl⟩ := Outcome.mapError_eq_error.1 failed
    rfl
  have header {text : String} (failed : checkHeader text = .error error) :
      error.isTyped = false := by
    rw [checkHeader] at failed
    split at failed <;> cases failed
    rfl
  rcases Outcome.bind_eq_error.1 impossible with failed | ⟨base, _, rest⟩
  · exact address failed
  rcases Outcome.bind_eq_error.1 rest with failed | ⟨_, _, rest⟩
  · exact header failed
  rcases Outcome.bind_eq_error.1 rest with failed | ⟨found, _, rest⟩
  · exact address failed
  dsimp only at rest
  split at rest
  · cases rest
    rfl
  · rcases Outcome.bind_eq_error.1 rest with failed | ⟨_, _, rest⟩
    · exact header failed
    · cases rest

/-! ## Descriptions of pages -/

/-- A value stands for an integer where a page has a number. -/
inductive StandsFor : Json → Int → Prop where
  | int (value : Int) : StandsFor (.int value) value
  | bool (value : Bool) : StandsFor (.bool value) (if value then 1 else 0)
  | real {value : Binary64} {whole : Int} (cut : value.truncate? = some whole) :
      StandsFor (.real value) whole
  | text {text : String} {value : Int} (read : IntegerText.read? text = some value) :
      StandsFor (.str text) value

/-- A value describes a page that was asked for by its number.  What is absent or does not
count as given is an empty list, the number asked for, or one page in all. -/
inductive Describes (number : Int) : Json → Page → Prop where
  | intro {fields pagination : Json.Fields} {notifications : List Json} {current total : Int}
      (listed : givenOr (Json.Fields.getD fields "notifications") (.arr []) = .arr notifications)
      (paged : givenOr (Json.Fields.getD fields "pagination") (.obj []) = .obj pagination)
      (currently : StandsFor
        (givenOr (Json.Fields.getD pagination "current_page") (.int number)) current)
      (altogether : StandsFor
        (givenOr (Json.Fields.getD pagination "total_pages") (.int 1)) total) :
      Describes number (.obj fields) ⟨notifications, current, total⟩

/-- A number of a page is infinite. -/
def HasInfiniteNumber (value : Json) : Prop :=
  ∃ fields pagination key sign, value = .obj fields ∧
    givenOr (Json.Fields.getD fields "pagination") (.obj []) = .obj pagination ∧
    key ∈ ["current_page", "total_pages"] ∧
    Json.Fields.getD pagination key = .real (.infinite sign)

/-- What reading content comes to: it has a meaning, or it cannot be used, or an infinite
value brings an error that says nothing of the content. -/
inductive Reads {α : Type} (means : α → Prop) (infinite : Prop) : Except Error α → Prop where
  | value {result : α} (meant : means result) : Reads means infinite (.ok result)
  | unusable {fault : PayloadError} (meaningless : ∀ result, ¬ means result) :
      Reads means infinite (.error (.payload fault))
  | infinite (found : infinite) : Reads means infinite (.error (.overflow .infinite))

theorem reads_pageNumber (pagination : Json.Fields) (value : Json) :
    Reads (StandsFor value) (∃ sign, value = .real (.infinite sign))
      (pageNumber pagination value) := by
  fun_cases pageNumber pagination value with
  | case1 value => exact .value (.int value)
  | case2 value => exact .value (.bool value)
  | case3 sign => exact .infinite ⟨sign, rfl⟩
  | case4 value finite whole cut => exact .value (.real cut)
  | case5 value finite uncut =>
      refine .unusable fun whole stands => ?_
      cases stands with
      | real cut =>
          rw [uncut] at cut
          cases cut
  | case6 text value read => exact .value (.text read)
  | case7 text unread =>
      refine .unusable fun whole stands => ?_
      cases stands with
      | text read =>
          rw [unread] at read
          cases read
  | case8 value notInt notBool notInfinite notReal notText =>
      refine .unusable fun whole stands => ?_
      cases stands with
      | int => exact notInt _ rfl
      | bool => exact notBool _ rfl
      | real cut => exact notReal _ rfl
      | text read => exact notText _ rfl

/-- A number that is not given is not infinite. -/
theorem infinite_of_givenOr {value : Json} {default : Int} {sign : Bool}
    (found : givenOr value (.int default) = .real (.infinite sign)) :
    value = .real (.infinite sign) := by
  rw [givenOr] at found
  split at found
  · exact found
  · cases found

theorem reads_page (number : Int) (value : Json) :
    Reads (Describes number value) (HasInfiniteNumber value) (Page.ofJson (.int number) value) := by
  fun_cases Page.ofJson (.int number) value with
  | case1 fields notifications listed pagination paged =>
      have current := reads_pageNumber pagination
        (givenOr (Json.Fields.getD pagination "current_page") (.int number))
      have total := reads_pageNumber pagination
        (givenOr (Json.Fields.getD pagination "total_pages") (.int 1))
      generalize pageNumber pagination _ = currently at current ⊢
      generalize pageNumber pagination _ = altogether at total ⊢
      cases current with
      | unusable meaningless =>
          refine .unusable fun page describes => ?_
          cases describes with
          | intro listed again currently altogether =>
              cases paged.symm.trans again
              exact meaningless _ currently
      | infinite found =>
          obtain ⟨sign, infinite⟩ := found
          exact .infinite ⟨fields, pagination, "current_page", sign, rfl, paged, by simp,
            infinite_of_givenOr infinite⟩
      | value meant =>
          cases total with
          | unusable meaningless =>
              refine .unusable fun page describes => ?_
              cases describes with
              | intro listed again currently altogether =>
                  cases paged.symm.trans again
                  exact meaningless _ altogether
          | infinite found =>
              obtain ⟨sign, infinite⟩ := found
              exact .infinite ⟨fields, pagination, "total_pages", sign, rfl, paged, by simp,
                infinite_of_givenOr infinite⟩
          | value altogether => exact .value (.intro listed paged meant altogether)
  | case2 fields items listed unpaged =>
      refine .unusable fun page describes => ?_
      cases describes with
      | intro listed paged => exact unpaged _ paged
  | case3 fields unlisted =>
      refine .unusable fun page describes => ?_
      cases describes with
      | intro listed => exact unlisted _ listed
  | case4 value notObject =>
      refine .unusable fun page describes => ?_
      cases describes with
      | intro => exact notObject _ rfl

/-! ## Operations -/

/-- The numbers of notifications to which a mutation applies. -/
inductive Ids where
  | one (id : Int)
  | several (ids : List Int)
  deriving DecidableEq, Repr

/-- The value by which the numbers are given. -/
def Ids.value : Ids → Json
  | one id => .int id
  | several ids => .arr (ids.map .int)

/-- The numbers themselves. -/
def Ids.items : Ids → List Json
  | one id => [.int id]
  | several ids => ids.map .int

/-- What the client can be asked for with one request. -/
inductive Operation where
  | page (number : Int) (filter : PageFilter)
  | triggerSync
  | isSyncing
  | mutation (kind : Mutation) (ids : Ids)
  | pinnedSearches
  | userProfile
  deriving DecidableEq, Repr

namespace Operation

/-- What an operation gives. -/
def Result : Operation → Type
  | page _ _ => Page
  | triggerSync => Unit
  | isSyncing => Bool
  | mutation _ _ => Unit
  | pinnedSearches => List PinnedSearch
  | userProfile => UserProfile

/-- Carry out an operation. -/
def run (client : Client) : (operation : Operation) → RemoteAccess operation.Result
  | page number filter => client.fetchPage (.int number) filter
  | triggerSync => client.triggerSync
  | isSyncing => client.isSyncing
  | mutation kind ids => client.mutateGiven kind ids.value
  | pinnedSearches => client.pinnedSearches
  | userProfile => client.userProfile

/-- The request of an operation. -/
def call (client : Client) : Operation → Call
  | page number filter => ("GET", pagePath, some (client.pageParameters (.int number) filter))
  | triggerSync => ("POST", triggerPath, none)
  | isSyncing => ("GET", progressPath, none)
  | mutation .star ids => starCall ids.value
  | mutation kind ids => groupCall kind ids.items
  | pinnedSearches => ("GET", pinnedPath, none)
  | userProfile => ("GET", profilePath, none)

/-- The values that the request of an operation writes. -/
def written (client : Client) : Operation → List Json
  | page number filter => [.int number, client.perPage, filter.query]
  | mutation .star ids => [ids.value]
  | mutation _ ids => ids.items
  | triggerSync | isSyncing | pinnedSearches | userProfile => []

/-- Whether an operation looks at the content of the answer. -/
def looksInside : Operation → Bool
  | page _ _ | pinnedSearches | userProfile => true
  | triggerSync | isSyncing | mutation _ _ => false

/-- What an operation gives when a successful answer has this content, which is read where
there is room for some values within each other. -/
def Means (room : Nat) : (operation : Operation) → String → operation.Result → Prop
  | page number _, body, found => ∃ value, Json.readBody room body = .ok value ∧
      Describes number value found
  | triggerSync, _, _ => True
  | isSyncing, _, syncing => syncing = false
  | mutation _ _, _, _ => True
  | pinnedSearches, body, searches => ∃ value, Json.readBody room body = .ok value ∧
      pinnedOfJson value = .ok searches
  | userProfile, body, profile => ∃ value, Json.readBody room body = .ok value ∧
      UserProfile.ofJson (profileObject value) = .ok profile

end Operation

/-- How an operation ends. -/
inductive Ends (client : Client) (wire : Wire) :
    (operation : Operation) → Except Error operation.Result × Wire → Prop where
  /-- The answer reports success and has usable content. -/
  | value {operation : Operation} {response : Response} {result : operation.Result} {after : Wire}
      (exchange : client.Exchange (operation.call client) wire (.ok response, after))
      (means : operation.Means client.room.reading response.body result) :
      Ends client wire operation (.ok result, after)
  /-- A service that is busy is synchronising. -/
  | busy {status : Int} {after : Wire}
      (exchange : client.Exchange (Operation.isSyncing.call client) wire
        (.error (.remote (.busy status)), after)) :
      Ends client wire .isSyncing (.ok true, after)
  | failed {operation : Operation} {error : RemoteError} {after : Wire}
      (exchange : client.Exchange (operation.call client) wire (.error (.remote error), after))
      (final : operation = .isSyncing → ∀ status, error ≠ .busy status) :
      Ends client wire operation (.error (.remote error), after)
  /-- The answer reports success, but its content cannot be used. -/
  | unusable {operation : Operation} {response : Response} {fault : PayloadError} {after : Wire}
      (exchange : client.Exchange (operation.call client) wire (.ok response, after))
      (meaningless : ∀ result, ¬ operation.Means client.room.reading response.body result) :
      Ends client wire operation (.error (.payload fault), after)
  /-- The answer describes a page with an infinite number. -/
  | infinite {number : Int} {filter : PageFilter} {response : Response} {value : Json}
      {after : Wire}
      (exchange : client.Exchange ((Operation.page number filter).call client) wire
        (.ok response, after))
      (read : Json.readBody client.room.reading response.body = .ok value)
      (infinite : HasInfiniteNumber value) :
      Ends client wire (.page number filter) (.error (.overflow .infinite), after)
  /-- There is no room for the arrays and objects within each other that the answer holds. -/
  | deep {operation : Operation} {response : Response} {container : Json.Container} {after : Wire}
      (exchange : client.Exchange (operation.call client) wire (.ok response, after))
      (looks : operation.looksInside = true)
      (read : Json.readBody client.room.reading response.body = .error (.nesting container)) :
      Ends client wire operation (.error (.nesting container), after)
  /-- A value cannot be written in a request, and nothing is sent. -/
  | unwritten {operation : Operation} {fault : Json.WritingFault}
      (found : (operation.written client).findSome? (Json.plainFault? client.room.writing) =
        some fault) :
      Ends client wire operation (.error (.unwritten fault), wire)
  /-- No request can be made, or the address of an answer cannot be read. -/
  | stray {operation : Operation} {error : Error} {after : Wire}
      (exchange : client.Exchange (operation.call client) wire (.error error, after))
      (stray : error.isTyped = false) : Ends client wire operation (.error error, after)

/-- How fetching every page from a number on ends. -/
inductive AllEnd (client : Client) (filter : PageFilter) :
    Int → Wire → Except Error (List Json) × Wire → Prop where
  | failed {number : Int} {wire after : Wire} {error : Error}
      (page : client.Ends wire (.page number filter) (.error error, after)) :
      AllEnd client filter number wire (.error error, after)
  /-- An empty page or one with the last number ends the fetching. -/
  | last {number : Int} {wire after : Wire} {page : Page}
      (fetched : client.Ends wire (.page number filter) (.ok page, after))
      (last : page.notifications = [] ∨ page.totalPages ≤ page.currentPage) :
      AllEnd client filter number wire (.ok page.notifications, after)
  | more {number : Int} {wire between after : Wire} {page : Page}
      {outcome : Except Error (List Json)}
      (fetched : client.Ends wire (.page number filter) (.ok page, between))
      (given : page.notifications ≠ []) (more : page.currentPage < page.totalPages)
      (rest : AllEnd client filter (number + 1) between (outcome, after)) :
      AllEnd client filter number wire (outcome.map (page.notifications ++ ·), after)

/-! ## How each operation ends -/

theorem ends_of_error {operation : Operation} {error : Error}
    (exchange : client.Exchange (operation.call client) wire (.error error, after))
    (final : operation = .isSyncing → ∀ status, error ≠ .remote (.busy status)) :
    client.Ends wire operation (.error error, after) := by
  cases exchange with
  | unsent impossible => exact .stray (.unsent impossible) (isTyped_of_makeRequest impossible)
  | unread made reply unreadable => exact .stray (.unread made reply unreadable) rfl
  | failed made readable fails status =>
      exact .failed (.failed made readable fails status) fun same status busy =>
        final same status (congrArg Error.remote busy)

/-- An operation that does not look at the content of the answer. -/
theorem ends_request {operation : Operation} (other : operation ≠ .isSyncing)
    {next : Response → RemoteAccess operation.Result}
    (answer : ∀ response after, client.Exchange (operation.call client) wire (.ok response, after) →
      client.Ends wire operation ((next response).run after)) :
    client.Ends wire operation ((client.request (operation.call client).1
      (operation.call client).2.1 (operation.call client).2.2 >>= next).run wire) := by
  have exchange := client.exchange_request (operation.call client) wire
  rw [Work.run_bind]
  split
  · next response after ran => exact answer response after (ran ▸ exchange)
  · next error after ran => exact ends_of_error (ran ▸ exchange) fun same => absurd same other

/-- An operation that reads the content of the answer as JSON. -/
theorem ends_requestJson {operation : Operation} (looks : operation.looksInside = true)
    (json : ∀ body result, operation.Means client.room.reading body result →
      ∃ value, Json.readBody client.room.reading body = .ok value)
    {next : Json → RemoteAccess operation.Result}
    (answer : ∀ response after value,
      client.Exchange (operation.call client) wire (.ok response, after) →
      Json.readBody client.room.reading response.body = .ok value →
      client.Ends wire operation ((next value).run after)) :
    client.Ends wire operation ((client.requestJson (operation.call client).1
      (operation.call client).2.1 (operation.call client).2.2 >>= next).run wire) := by
  rw [requestJson, bind_assoc]
  refine ends_request ?_ fun response after exchange => ?_
  · rintro rfl
    cases looks
  · rw [Work.run_bind, Work.run_ofExcept, readContent]
    cases read : Json.readBody client.room.reading response.body with
    | ok value => exact answer response after value exchange read
    | error fault =>
        cases fault with
        | nesting container => exact .deep exchange looks read
        | malformed =>
            refine .unusable exchange fun result means => ?_
            obtain ⟨value, found⟩ := json response.body result means
            cases read.symm.trans found

/-- Content that is read but means nothing is unusable. -/
theorem not_means_of_read {α : Type} {room : Nat} {body : String} {value : Json}
    {reads : Json → α → Prop} (read : Json.readBody room body = .ok value)
    (meaningless : ∀ result, ¬ reads value result) (result : α) :
    ¬ ∃ value, Json.readBody room body = .ok value ∧ reads value result := by
  rintro ⟨other, again, means⟩
  cases read.symm.trans again
  exact meaningless result means

/-- An operation of which the request writes values. -/
theorem ends_checkWritable {operation : Operation} {next : RemoteAccess operation.Result}
    (answer : client.Ends wire operation (next.run wire)) :
    client.Ends wire operation
      ((MonadExcept.ofExcept (client.checkWritable (operation.written client)) >>= fun _ =>
        next).run wire) := by
  rw [Work.run_bind, Work.run_ofExcept, checkWritable]
  cases found : (operation.written client).findSome? (Json.plainFault? client.room.writing) with
  | none => exact answer
  | some fault => exact .unwritten found

theorem ends_fetchPage (client : Client) (wire : Wire) (number : Int) (filter : PageFilter) :
    client.Ends wire (.page number filter) ((client.fetchPage (.int number) filter).run wire) := by
  refine @ends_checkWritable client wire (.page number filter) _ ?_
  refine @ends_requestJson client wire (.page number filter) rfl
    (fun body result means => means.imp fun value => And.left) _
    fun response after value exchange read => ?_
  have page := reads_page number value
  generalize Page.ofJson (.int number) value = outcome at page ⊢
  cases page with
  | value meant => exact .value exchange ⟨value, read, meant⟩
  | unusable meaningless => exact .unusable exchange (not_means_of_read read meaningless)
  | infinite found => exact .infinite exchange read found

/-- The service is synchronising if it is busy, and not if it answers. -/
theorem run_isSyncing (client : Client) (wire : Wire) :
    client.isSyncing.run wire =
      match (client.request "GET" progressPath none).run wire with
      | (.ok _, after) => (.ok false, after)
      | (.error (.remote (.busy _)), after) => (.ok true, after)
      | (.error error, after) => (.error error, after) := by
  rw [isSyncing, Work.run_bind]
  erw [Work.run_tryCatch]
  rw [Work.run_bind]
  rcases (client.request "GET" progressPath none).run wire with ⟨outcome, after⟩
  cases outcome with
  | ok response => rfl
  | error error =>
      cases error with
      | remote failure => cases failure <;> rfl
      | _ => rfl

theorem ends_isSyncing (client : Client) (wire : Wire) :
    client.Ends wire .isSyncing (client.isSyncing.run wire) := by
  have exchange := client.exchange_request ("GET", progressPath, none) wire
  rw [run_isSyncing]
  split
  · next response after ran => exact .value (ran ▸ exchange) rfl
  · next status after ran => exact .busy (ran ▸ exchange)
  · next error after final ran => exact ends_of_error (ran ▸ exchange) fun _ status => final status

theorem mutateGiven_eq_sendWith (client : Client) (kind : Mutation) (ids : Ids) :
    client.mutateGiven kind ids.value =
      client.sendWith ((Operation.mutation kind ids).written client)
        ((Operation.mutation kind ids).call client) := by
  cases kind <;> cases ids <;> rfl

theorem ends_run (client : Client) (wire : Wire) (operation : Operation) :
    client.Ends wire operation ((operation.run client).run wire) := by
  cases operation with
  | page number filter => exact ends_fetchPage client wire number filter
  | triggerSync =>
      exact @ends_request client wire .triggerSync (by simp) _
        fun response after exchange => .value exchange trivial
  | isSyncing => exact ends_isSyncing client wire
  | mutation kind ids =>
      rw [Operation.run, mutateGiven_eq_sendWith]
      refine @ends_checkWritable client wire (.mutation kind ids) _ ?_
      exact @ends_request client wire (.mutation kind ids) (by simp) _
        fun response after exchange => .value exchange trivial
  | pinnedSearches =>
      refine @ends_requestJson client wire .pinnedSearches rfl
        (fun body result means => means.imp fun value => And.left) _
        fun response after value exchange read => ?_
      cases found : pinnedOfJson value with
      | ok searches => exact .value exchange ⟨value, read, found⟩
      | error fault =>
          refine .unusable exchange (not_means_of_read read fun result means => ?_)
          simp [found] at means
  | userProfile =>
      refine @ends_requestJson client wire .userProfile rfl
        (fun body result means => means.imp fun value => And.left) _
        fun response after value exchange read => ?_
      cases found : UserProfile.ofJson (profileObject value) with
      | ok profile => exact .value exchange ⟨value, read, found⟩
      | error failure =>
          refine .unusable exchange (not_means_of_read read fun result means => ?_)
          simp [found] at means

/-! ## Every page -/

/-- The content that is left when every answer is used up holds no fields. -/
theorem eq_of_readBody_empty {room : Nat} {value : Json}
    (read : Json.readBody room "\x7b\x7d" = .ok value) : value = .obj [] := by
  let braces : List Char := ['\x7b', '\x7d']
  have decoded : (Json.BodyEncoding.ofBytes (Text.utf8 braces)).decode? (Text.utf8 braces) =
      some braces := by decide +kernel
  have list : Json.readBody room "\x7b\x7d" = Json.readList room braces := by
    change (Json.orMalformed ((Json.BodyEncoding.ofBytes (Text.utf8 braces)).decode?
      (Text.utf8 braces)) >>= Json.readList room) = _
    rw [decoded]
    rfl
  rw [list] at read
  cases room <;> cases read
  rfl

/-- A page uses up an answer, and after the last answer it is empty. -/
theorem pending_of_page {number : Int} {filter : PageFilter} {page : Page}
    (fetched : client.Ends wire (.page number filter) (.ok page, after)) :
    after.pending (client.route "GET" pagePath) =
        (wire.pending (client.route "GET" pagePath)).tail ∧
      (wire.pending (client.route "GET" pagePath) = [] → page.notifications = []) := by
  cases fetched with
  | value exchange means =>
      cases exchange with
      | answered made reply readable success =>
          refine ⟨Wire.pending_send wire _ _, fun none => ?_⟩
          have empty : wire.nextReply (client.route "GET" pagePath) = Wire.emptyReply := by
            rw [Wire.nextReply, none]
            rfl
          cases empty.symm.trans reply
          obtain ⟨value, read, describes⟩ := means
          obtain rfl := eq_of_readBody_empty read
          cases describes with
          | intro listed =>
              cases listed
              rfl

theorem allEnd_fetchFrom {filter : PageFilter} {most number : Nat}
    (enough : (wire.pending (client.route "GET" pagePath)).length < most) :
    client.AllEnd filter number wire ((client.fetchFrom filter most number).run wire) := by
  -- every page uses up an answer, so that more pages are allowed than answers are to come
  induction most generalizing number wire with
  | zero => cases enough
  | succ most ih =>
      have ends := client.ends_fetchPage wire number filter
      rw [fetchFrom, Work.run_bind]
      split
      · next page between ran =>
          rw [ran] at ends
          obtain ⟨pending, exhausted⟩ := pending_of_page ends
          by_cases empty : page.notifications = []
          · simpa [empty] using AllEnd.last ends (.inl empty)
          · by_cases final : page.totalPages ≤ page.currentPage
            · simpa [empty, final] using AllEnd.last ends (.inr final)
            · have fewer : (between.pending (client.route "GET" pagePath)).length < most := by
                have some := List.length_pos_iff.2 (mt exhausted empty)
                rw [pending, List.length_tail]
                omega
              have rest := @ih between (number + 1) fewer
              simp only [List.isEmpty_iff, empty, final, if_false]
              rw [Work.run_bind]
              generalize (client.fetchFrom filter most (number + 1)).run between = done at rest ⊢
              obtain ⟨outcome, after⟩ := done
              have all := AllEnd.more ends empty (Int.not_le.1 final) rest
              cases outcome <;> exact all
      · next error after ran => exact .failed (ran ▸ ends)

/-- An operation ends with what the answer gives or with an error that tells what the answer
was, and so does fetching every page, with the error of the first page that fails.  The only
exceptions are infinite numbers of pages, content for which there is no room, values that
cannot be written, requests that cannot be made and answers whose address cannot be read. -/
theorem operations_end (client : Client) (wire : Wire) :
    (∀ operation : Operation, client.Ends wire operation ((operation.run client).run wire)) ∧
      ∀ filter, client.AllEnd filter 1 wire ((client.fetchAll filter).run wire) := by
  refine ⟨client.ends_run wire, fun filter => ?_⟩
  exact allEnd_fetchFrom (Nat.lt_succ_self _)

/-- A service whose only page has the given text as the number of all pages. -/
def pagedService (total : String) : Wire where
  replies := [("GET /api/notifications.json",
    [.answer 200 ("\x7b\"pagination\": \x7b\"total_pages\": " ++ total ++ "\x7d\x7d")])]

/-- The error with which work ends, if it fails. -/
def errorOf? {α : Type} (done : Except Error α × Wire) : Option Error :=
  match done.1 with
  | .ok _ => none
  | .error error => some error

theorem eq_of_errorOf? {α : Type} {done : Except Error α × Wire} {error : Error}
    (found : errorOf? done = some error) : done = (.error error, done.2) := by
  obtain ⟨outcome, after⟩ := done
  cases outcome <;> cases found
  rfl

/-- A number of pages that is no number makes the content unusable, but an infinite one brings
an error that is none of the expected ones. -/
theorem error_of_infinite_total :
    let client := make "https://tidings.test" "secret" defaultPerPage
    (∃ after, (client.fetchPage (.int 1) {}).run (pagedService "NaN") =
        (.error (.payload (.pagination (.obj [("total_pages", .real .notANumber)]))), after)) ∧
      (∃ after, (client.fetchPage (.int 1) {}).run (pagedService "Infinity") =
        (.error (.overflow .infinite), after)) ∧
      Error.isTyped (.overflow .infinite) = false := by
  intro client
  have unusable : errorOf? ((client.fetchPage (.int 1) {}).run (pagedService "NaN")) =
      some (.payload (.pagination (.obj [("total_pages", .real .notANumber)]))) := by
    decide +kernel
  have infinite : errorOf? ((client.fetchPage (.int 1) {}).run (pagedService "Infinity")) =
      some (.overflow .infinite) := by decide +kernel
  exact ⟨⟨_, eq_of_errorOf? unusable⟩, ⟨_, eq_of_errorOf? infinite⟩, rfl⟩

end Triage.Client
