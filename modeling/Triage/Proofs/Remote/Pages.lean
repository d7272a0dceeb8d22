import Mathlib.Data.List.Basic
import Triage.Proofs.Remote.Sending

/-!
# Page by page

What comes of the request for a page depends on the reply alone.  Fetching everything asks for
the pages in their order and ends with the first that cannot be fetched, is empty or is the
last by the numbers that it reports.  A total that every page reports bounds the number of
requests exactly if the page of this number is empty or says itself that it is the last.
-/

namespace Triage

namespace Wire

variable {key : String} {wire after : Wire}

/-- A service of which only the next reply on a route is known. -/
def answering (key : String) (reply : Reply) : Wire where
  replies := [(key, [reply])]

/-- The reply on a route after a number of others. -/
def replyAfter (wire : Wire) (key : String) (used : Nat) : Reply :=
  (wire.pending key).getD used emptyReply

@[simp] theorem nextReply_answering (key : String) (reply : Reply) :
    (answering key reply).nextReply key = reply := by
  simp [answering, nextReply, pending]

theorem replyAfter_zero (wire : Wire) (key : String) :
    wire.replyAfter key 0 = wire.nextReply key := by
  rw [replyAfter, nextReply]
  cases wire.pending key <;> rfl

/-- Where an answer was used up, replies are counted from the next one. -/
theorem replyAfter_of_tail (used : after.pending key = (wire.pending key).tail) (count : Nat) :
    after.replyAfter key count = wire.replyAfter key (count + 1) := by
  rw [replyAfter, replyAfter, used]
  cases wire.pending key <;> rfl

end Wire

namespace Client

variable {client : Client} {filter : PageFilter} {wire after : Wire} {number : Nat} {page : Page}

/-! ## One page -/

/-- The route of pages. -/
abbrev pageRoute (client : Client) : String :=
  client.route "GET" pagePath

/-- What fetching a page comes to if it is answered by the given reply. -/
def pageOf (client : Client) (filter : PageFilter) (number : Nat) (reply : Reply) :
    Except Error Page :=
  ((client.fetchPage (.int number) filter).run (.answering client.pageRoute reply)).1

/-- The page that the content of an answer describes. -/
def pageIn (client : Client) (number : Nat) (response : Response) : Except Error Page :=
  client.readContent response >>= Page.ofJson (.int number)

/-- What a request comes to is decided by the next reply on its route. -/
theorem fst_run_request (client : Client) (method path : String)
    (parameters : Option (List (String × String))) (wire : Wire) :
    ((client.request method path parameters).run wire).1 =
      ((client.request method path parameters).run (.answering (client.route method path)
        (wire.nextReply (client.route method path)))).1 := by
  rw [request]
  cases made : client.makeRequest method path parameters with
  | error error => rfl
  | ok found =>
      obtain ⟨address, request⟩ := found
      simp only [routeOf_makeRequest made, Work.run_bind, Work.run_get, Work.run_modify,
        Wire.nextReply_answering]
      split
      · rfl
      · cases content method path request.address (wire.nextReply (client.route method path)) <;>
          rfl

/-- Where the values of the request can be written, fetching a page reads the content of the
answer. -/
theorem run_fetchPage (client : Client) (filter : PageFilter) (number : Nat) (wire : Wire) :
    (client.fetchPage (.int number) filter).run wire =
      match client.checkWritable [.int number, client.perPage, filter.query] with
      | .error error => (.error error, wire)
      | .ok () =>
          let parameters := client.pageParameters (.int number) filter
          let exchanged := (client.request "GET" pagePath (some parameters)).run wire
          (exchanged.1 >>= client.pageIn number, exchanged.2) := by
  rw [fetchPage, Work.run_bind, Work.run_ofExcept]
  cases client.checkWritable [.int number, client.perPage, filter.query] with
  | error error => rfl
  | ok =>
      simp only [requestJson, bind_assoc]
      rw [Work.run_bind]
      rcases (client.request "GET" pagePath _).run wire with ⟨outcome, after⟩
      cases outcome with
      | error error => rfl
      | ok response =>
          change _ = (client.pageIn number response, after)
          dsimp only
          rw [pageIn, Work.run_bind, Work.run_ofExcept]
          cases client.readContent response with
          | error error => rfl
          | ok value => exact Work.run_ofExcept _ _

/-- A page sends its request, and what it comes to is decided by the next reply. -/
theorem exists_run_fetchPage (client : Client) (filter : PageFilter) (number : Nat) (wire : Wire) :
    ∃ after, (client.fetchPage (.int number) filter).run wire =
        (client.pageOf filter number (wire.nextReply client.pageRoute), after) ∧
      after.sent = wire.sent ++ (client.pageRequest? filter number).toList := by
  let parameters := client.pageParameters (.int number) filter
  have decided := client.fst_run_request "GET" pagePath (some parameters) wire
  have sent := client.sent_request "GET" pagePath (some parameters) wire
  rw [pageOf, run_fetchPage, run_fetchPage, pageRequest?_eq]
  cases client.checkWritable [.int number, client.perPage, filter.query] with
  | error error => exact ⟨wire, rfl, (List.append_nil _).symm⟩
  | ok =>
      refine ⟨((client.request "GET" pagePath (some parameters)).run wire).2,
        by simp only [pageRoute, parameters, ← decided], ?_⟩
      rw [sent]
      cases client.makeRequest "GET" pagePath (some parameters) <;> simp

/-! ## What a reply shows -/

theorem pageNumber_of_standsFor (pagination : Json.Fields) {value : Json} {whole : Int}
    (stands : StandsFor value whole) : pageNumber pagination value = .ok whole := by
  cases stands with
  | int | bool => rfl
  | text read => rw [pageNumber, read]
  | @real value _ cut =>
      cases value with
      | infinite | notANumber => cases cut
      | finite => simp only [pageNumber, cut]

theorem ofJson_of_describes {value : Json} (describes : Describes number value page) :
    Page.ofJson (.int number) value = .ok page := by
  cases describes with
  | intro listed paged currently altogether =>
      simp only [Page.ofJson, listed, paged, pageNumber_of_standsFor _ currently,
        pageNumber_of_standsFor _ altogether]
      rfl

/-- A reply shows a page: it answers a request that can be made, reports success, and its
content describes the page. -/
inductive Shows (client : Client) (filter : PageFilter) (number : Nat) : Reply → Page → Prop where
  | intro {address : Address} {request : Request} {status : Int} {body : String} {value : Json}
      {page : Page}
      (writable : [.int number, client.perPage, filter.query].findSome?
        (Json.plainFault? client.room.writing) = none)
      (made : client.makeRequest "GET" pagePath
        (some (("page", toString number) :: client.sharedParameters filter)) =
          .ok (address, request))
      (readable : address.answeredFault? = none)
      (success : 200 ≤ status ∧ status < 300)
      (read : Json.readBody client.room.reading body = .ok value)
      (describes : Describes number value page) :
      Shows client filter number (.answer status body) page

theorem run_request_of_success {address : Address} {request : Request} {method path : String}
    {parameters : Option (List (String × String))} {status : Int} {body : String}
    (made : client.makeRequest method path parameters = .ok (address, request))
    (readable : address.answeredFault? = none) (success : 200 ≤ status ∧ status < 300)
    (answered : wire.nextReply (client.route method path) = .answer status body) :
    ((client.request method path parameters).run wire).1 = .ok ⟨request.address, body⟩ := by
  have usable : content method path request.address (.answer status body) = .ok body := by
    simp [content, statusError?, success]
  rw [Client.request, made]
  simp only [routeOf_makeRequest made, Work.run_bind, Work.run_get, Work.run_modify, answered,
    readable, usable]
  rfl

/-- A page is fetched exactly if the reply shows it. -/
theorem pageOf_eq_ok {reply : Reply} :
    client.pageOf filter number reply = .ok page ↔ client.Shows filter number reply page := by
  constructor
  · intro fetched
    have writable : client.checkWritable [.int number, client.perPage, filter.query] = .ok () := by
      rw [pageOf, run_fetchPage] at fetched
      split at fetched
      · cases fetched
      · assumption
    have ends := client.ends_fetchPage (.answering client.pageRoute reply) number filter
    rw [pageOf] at fetched
    generalize (client.fetchPage (.int number) filter).run _ = done at ends fetched
    obtain ⟨outcome, after⟩ := done
    cases fetched
    cases ends with
    | value exchange means =>
        obtain ⟨value, read, describes⟩ := means
        cases exchange with
        | answered made replied readable success =>
            have same := (Wire.nextReply_answering client.pageRoute reply).symm.trans replied
            subst same
            change client.makeRequest "GET" pagePath (some _) = _ at made
            rw [pageParameters_eq] at made
            exact .intro (checkWritable_eq_ok.1 writable) made readable success read describes
  · intro shown
    cases shown with
    | @intro _ _ _ body value _ writable made readable success read describes =>
        rw [← pageParameters_eq] at made
        have answered := run_request_of_success made readable success
          (Wire.nextReply_answering client.pageRoute (.answer _ body))
        rw [pageOf, run_fetchPage, checkWritable_eq_ok.2 writable]
        simp only [answered]
        change client.pageIn number _ = _
        rw [pageIn, readContent, read]
        exact ofJson_of_describes describes

theorem Shows.isSome_pageRequest? {reply : Reply}
    (shown : client.Shows filter number reply page) :
    (client.pageRequest? filter number).isSome = true := by
  cases shown with
  | intro writable made => simp only [pageRequest?, writable, made, Option.isSome_some]

/-! ## Every page -/

/-- A page ends the fetching: it cannot be fetched, it is empty, or it is the last one by the
numbers that it reports. -/
def Final (found : Except Error Page) : Prop :=
  ∀ page, found = .ok page → page.notifications = [] ∨ page.totalPages ≤ page.currentPage

/-- The notifications of a page that could be fetched. -/
def listed : Except Error Page → List Json
  | .ok page => page.notifications
  | .error _ => []

theorem exists_of_not_final {found : Except Error Page} (more : ¬ Final found) :
    ∃ page, found = .ok page ∧ page.notifications ≠ [] ∧ ¬ page.totalPages ≤ page.currentPage := by
  cases found with
  | error error => exact absurd nofun more
  | ok page =>
      refine ⟨page, rfl, fun empty => more ?_, fun last => more ?_⟩
      all_goals
        rintro _ ⟨⟩
      · exact .inl empty
      · exact .inr last

/-- What the page at an offset from a number comes to, by the replies that are to come. -/
def pageAt (client : Client) (filter : PageFilter) (number : Nat) (wire : Wire) (offset : Nat) :
    Except Error Page :=
  client.pageOf filter (number + offset) (wire.replyAfter client.pageRoute offset)

/-- Pages were fetched from a number on, up to the first that ends the fetching: one request was
sent for each of them, and their notifications are put together in their order unless the last
one could not be fetched. -/
structure Walk (client : Client) (filter : PageFilter) (number : Nat) (wire : Wire) (last : Nat)
    (done : Except Error (List Json) × Wire) : Prop where
  final : Final (client.pageAt filter number wire last)
  earlier : ∀ offset < last, ¬ Final (client.pageAt filter number wire offset)
  sent : done.2.sent = wire.sent ++
    (List.range (last + 1)).filterMap fun offset => client.pageRequest? filter (number + offset)
  outcome : done.1 = (client.pageAt filter number wire last).map fun _ =>
    (List.range (last + 1)).flatMap fun offset => listed (client.pageAt filter number wire offset)

theorem pageAt_zero (client : Client) (filter : PageFilter) (number : Nat) (wire : Wire) :
    client.pageAt filter number wire 0 =
      client.pageOf filter number (wire.nextReply client.pageRoute) := by
  rw [pageAt, Wire.replyAfter_zero, Nat.add_zero]

/-- Where a page used up an answer, the next page is at the next offset. -/
theorem pageAt_of_tail {between : Wire}
    (used : between.pending client.pageRoute = (wire.pending client.pageRoute).tail)
    (offset : Nat) :
    client.pageAt filter (number + 1) between offset =
      client.pageAt filter number wire (offset + 1) := by
  rw [pageAt, pageAt, Wire.replyAfter_of_tail used, Nat.add_assoc, Nat.add_comm 1]

section Step

variable {most : Nat} {between : Wire}

/-- A page that ends the fetching is all that is fetched. -/
theorem Walk.of_final {found : Except Error Page}
    (first : client.pageAt filter number wire 0 = found)
    (fetched : (client.fetchPage (.int number) filter).run wire = (found, after))
    (sent : after.sent = wire.sent ++ (client.pageRequest? filter number).toList)
    (final : Final found) :
    client.Walk filter number wire 0 ((client.fetchFrom filter (most + 1) number).run wire) := by
  have ran : (client.fetchFrom filter (most + 1) number).run wire =
      (found.map Page.notifications, after) := by
    rw [fetchFrom, Work.run_bind, fetched]
    cases found with
    | error error => rfl
    | ok page =>
        by_cases empty : page.notifications = []
        · simp [empty, Except.map]
        · simp [empty, (final page rfl).resolve_left empty, Except.map]
  rw [ran]
  refine ⟨first ▸ final, by simp, by simpa [List.filterMap_eq_flatMap_toList] using sent, ?_⟩
  cases found <;> simp [first, listed, Except.map]

/-- Behind any other page the pages that follow it are fetched. -/
theorem Walk.of_more {last : Nat} (first : client.pageAt filter number wire 0 = .ok page)
    (fetched : (client.fetchPage (.int number) filter).run wire = (.ok page, between))
    (sent : between.sent = wire.sent ++ (client.pageRequest? filter number).toList)
    (used : between.pending client.pageRoute = (wire.pending client.pageRoute).tail)
    (more : ¬ Final (.ok page))
    (rest : client.Walk filter (number + 1) between last
      ((client.fetchFrom filter most (number + 1)).run between)) :
    client.Walk filter number wire (last + 1)
      ((client.fetchFrom filter (most + 1) number).run wire) := by
  obtain ⟨_, ⟨⟩, given, unfinished⟩ := exists_of_not_final more
  obtain ⟨final, earlier, later, outcome⟩ := rest
  simp only [pageAt_of_tail used] at final earlier outcome
  have ran : (client.fetchFrom filter (most + 1) number).run wire =
      (((client.fetchFrom filter most (number + 1)).run between).1.map (page.notifications ++ ·),
        ((client.fetchFrom filter most (number + 1)).run between).2) := by
    rw [fetchFrom, Work.run_bind_ok fetched]
    simp only [List.isEmpty_iff, given, unfinished, if_false]
    rw [Work.run_bind]
    rcases (client.fetchFrom filter most (number + 1)).run between with ⟨done, after⟩
    cases done <;> rfl
  rw [ran]
  refine ⟨final, fun offset before => ?_, ?_, ?_⟩
  · cases offset with
    | zero => exact first ▸ more
    | succ offset => exact earlier offset (Nat.lt_of_succ_lt_succ before)
  · rw [later, sent, List.range_succ_eq_map (n := last + 1)]
    simp [List.filterMap_eq_flatMap_toList, List.flatMap_map, Nat.add_assoc, Nat.add_comm 1]
  · rw [outcome, List.range_succ_eq_map (n := last + 1)]
    cases client.pageAt filter number wire (last + 1) <;>
      simp [List.flatMap_map, first, listed, Except.map]

end Step

/-- With more pages allowed than answers are to come, pages are fetched up to the first that
ends the fetching. -/
theorem exists_walk_fetchFrom {most : Nat}
    (enough : (wire.pending client.pageRoute).length < most) :
    ∃ last, client.Walk filter number wire last
      ((client.fetchFrom filter most number).run wire) := by
  -- every page uses up an answer, and the page behind the last answer is empty
  induction most generalizing number wire with
  | zero => cases enough
  | succ most ih =>
      have ends := client.ends_fetchPage wire number filter
      obtain ⟨between, fetched, sent⟩ := client.exists_run_fetchPage filter number wire
      rw [← pageAt_zero] at fetched
      by_cases final : Final (client.pageAt filter number wire 0)
      · exact ⟨0, .of_final rfl fetched sent final⟩
      · obtain ⟨page, first, given, _⟩ := exists_of_not_final final
        rw [first] at fetched final
        rw [fetched] at ends
        obtain ⟨used, exhausted⟩ := pending_of_page ends
        have fewer : (between.pending client.pageRoute).length < most := by
          have some : 0 < (wire.pending client.pageRoute).length :=
            List.length_pos_iff.2 (mt exhausted given)
          rw [used, List.length_tail]
          change (wire.pending client.pageRoute).length - 1 < most
          omega
        obtain ⟨last, rest⟩ := @ih between (number + 1) fewer
        exact ⟨last + 1, .of_more first fetched sent used final rest⟩

/-! ## Pages by their numbers -/

/-- What the page of a number comes to when all pages before it were fetched. -/
def foundPage (client : Client) (filter : PageFilter) (wire : Wire) (number : Nat) :
    Except Error Page :=
  client.pageOf filter number (wire.replyAfter client.pageRoute (number - 1))

/-- The page of a number is asked for: none before it ends the fetching. -/
def Asked (client : Client) (filter : PageFilter) (wire : Wire) (number : Nat) : Prop :=
  1 ≤ number ∧ ∀ earlier, 1 ≤ earlier → earlier < number →
    ¬ Final (client.foundPage filter wire earlier)

/-- Behind a page that ends the fetching none is asked for. -/
theorem Asked.le_of_final {last : Nat} (asked : client.Asked filter wire number) (one : 1 ≤ last)
    (final : Final (client.foundPage filter wire last)) : number ≤ last :=
  Nat.le_of_not_lt fun beyond => asked.2 last one beyond final

theorem pageAt_one (client : Client) (filter : PageFilter) (wire : Wire) (offset : Nat) :
    client.pageAt filter 1 wire offset = client.foundPage filter wire (1 + offset) := by
  rw [pageAt, foundPage, Nat.add_sub_cancel_left]

theorem exists_walk_fetchAll (client : Client) (filter : PageFilter) (wire : Wire) :
    ∃ last, client.Walk filter 1 wire last ((client.fetchAll filter).run wire) := by
  rw [fetchAll, Work.run_bind_ok (Work.run_get wire)]
  exact exists_walk_fetchFrom (Nat.lt_succ_self _)

/-- Pages up to the one that ends the fetching are asked for. -/
theorem Walk.asked {last : Nat} {done : Except Error (List Json) × Wire}
    (walk : client.Walk filter 1 wire last done) (some : 1 ≤ number) (within : number ≤ last + 1) :
    client.Asked filter wire number := by
  refine ⟨some, fun earlier known before => ?_⟩
  have more := walk.earlier (earlier - 1) (by omega)
  rwa [pageAt_one, Nat.add_sub_cancel' known] at more

/-- Where every page can be fetched, each of them takes one request. -/
theorem Walk.length_sent {last : Nat} {done : Except Error (List Json) × Wire}
    (walk : client.Walk filter 1 wire last done)
    (shown : ∀ offset ≤ last, ∃ page, client.foundPage filter wire (1 + offset) = .ok page) :
    done.2.sent.length = wire.sent.length + (last + 1) := by
  rw [walk.sent, List.length_append, List.length_filterMap_eq_countP, List.countP_eq_length.2,
    List.length_range]
  intro offset member
  obtain ⟨page, same⟩ := shown offset (Nat.le_of_lt_succ (List.mem_range.1 member))
  exact (pageOf_eq_ok.1 same).isSome_pageRequest?

/-- Where every page that is asked for reports the same total, fetching succeeds, and it sends at
most as many requests as there are pages in total exactly if the page of this number, where it is
asked for, is empty or does not report a lower number than its own. -/
theorem fetchAll_within_total {client : Client} {filter : PageFilter} {wire : Wire} {total : Nat}
    (one : 1 ≤ total)
    (reported : ∀ number, client.Asked filter wire number →
      ∃ page, client.foundPage filter wire number = .ok page ∧ page.totalPages = total) :
    let done := (client.fetchAll filter).run wire
    (∃ payloads, done.1 = .ok payloads) ∧
      ∃ requests, done.2.sent = wire.sent ++ requests ∧
        (requests.length ≤ total ↔ ∀ page, client.Asked filter wire total →
          client.foundPage filter wire total = .ok page →
            page.notifications = [] ∨ total ≤ page.currentPage) := by
  intro done
  obtain ⟨last, walk⟩ := client.exists_walk_fetchAll filter wire
  have final : Final (client.foundPage filter wire (last + 1)) := by
    have ends := walk.final
    rwa [pageAt_one, Nat.add_comm] at ends
  have shown : ∀ offset ≤ last, ∃ page, client.foundPage filter wire (1 + offset) = .ok page := by
    intro offset within
    obtain ⟨page, same, _⟩ := reported (1 + offset) (walk.asked (by omega) (by omega))
    exact ⟨page, same⟩
  refine ⟨?_, _, walk.sent, ?_⟩
  · obtain ⟨page, same⟩ := shown last (Nat.le_refl _)
    have outcome := walk.outcome
    rw [pageAt_one, same] at outcome
    exact ⟨_, outcome⟩
  · have counted := walk.length_sent shown
    rw [walk.sent, List.length_append] at counted
    have count := Nat.add_left_cancel counted
    rw [count]
    constructor
    · -- the page of this number is asked for only as the last one
      intro few page asked same
      obtain rfl : total = last + 1 :=
        Nat.le_antisymm (asked.le_of_final (by omega) final) few
      obtain ⟨_, again, all⟩ := reported _ asked
      cases same.symm.trans again
      exact all ▸ final page same
    · intro reached
      refine Nat.le_of_not_lt fun beyond => ?_
      have asked := walk.asked one (by omega)
      obtain ⟨page, same, all⟩ := reported total asked
      have ends : Final (client.foundPage filter wire total) := by
        rw [same]
        rintro _ ⟨⟩
        exact all ▸ reached page asked same
      have final_asked : client.Asked filter wire (last + 1) :=
        walk.asked (by omega) (Nat.le_refl _)
      have few := final_asked.le_of_final one ends
      omega

/-- The text of a page out of two, with what else it reports of itself. -/
def pageText (notifications reported : String) : String :=
  "\x7b\"notifications\": [" ++ notifications ++ "], \"pagination\": \x7b" ++ reported ++
    "\"total_pages\": 2\x7d\x7d"

/-- A service that gives pages with these texts. -/
def pagesService (texts : List String) : Wire where
  replies := [("GET /api/notifications.json", texts.map (.answer 200 ·))]

/-- Whether a page is empty, its number and the number of all pages. -/
def reported? (found : Except Error Page) : Option (Bool × Int × Int) :=
  found.toOption.map fun page =>
    (page.notifications.isEmpty, page.currentPage, page.totalPages)

theorem exists_of_reported? {found : Except Error Page} {empty : Bool} {current total : Int}
    (reported : reported? found = some (empty, current, total)) :
    ∃ page, found = .ok page ∧ page.notifications.isEmpty = empty ∧
      page.currentPage = current ∧ page.totalPages = total := by
  cases found with
  | error error => cases reported
  | ok page =>
      cases reported
      exact ⟨page, rfl, rfl, rfl, rfl⟩

theorem final_of_reported? {found : Except Error Page} {empty : Bool} {current total : Int}
    (reported : reported? found = some (empty, current, total)) :
    Final found ↔ empty = true ∨ total ≤ current := by
  obtain ⟨page, rfl, rfl, rfl, rfl⟩ := exists_of_reported? reported
  simp [Final]

/-- The first page may say of itself what it will: with a second one that does not say its
number, there are two requests. -/
theorem fetchAll_within_two :
    let client := make "https://tidings.test" "secret" defaultPerPage
    let service := pagesService
      [pageText "1, 2" "\"current_page\": \"-7\", ", pageText "3" "", pageText "4" ""]
    (∀ number, client.Asked {} service number →
      ∃ page, client.foundPage {} service number = .ok page ∧ page.totalPages = (2 : Nat)) ∧
    let done := (client.fetchAll {}).run service
    (∃ payloads, done.1 = .ok payloads) ∧
      ∃ requests, done.2.sent = service.sent ++ requests ∧ requests.length ≤ 2 := by
  intro client service
  have first : reported? (client.foundPage {} service 1) = some (false, -7, 2) := by
    decide +kernel
  have second : reported? (client.foundPage {} service 2) = some (false, 2, 2) := by
    decide +kernel
  have reported : ∀ number, client.Asked {} service number →
      ∃ page, client.foundPage {} service number = .ok page ∧ page.totalPages = (2 : Nat) := by
    intro number asked
    have few := asked.le_of_final (by decide) ((final_of_reported? second).2 (by simp))
    obtain rfl | rfl : number = 1 ∨ number = 2 := by
      have one := asked.1
      omega
    · obtain ⟨page, same, _, _, total⟩ := exists_of_reported? first
      exact ⟨page, same, total⟩
    · obtain ⟨page, same, _, _, total⟩ := exists_of_reported? second
      exact ⟨page, same, total⟩
  obtain ⟨succeeds, requests, sent, few⟩ := fetchAll_within_total (by decide) reported
  refine ⟨reported, succeeds, requests, sent, few.2 fun page _ same => ?_⟩
  obtain ⟨_, again, _, current, _⟩ := exists_of_reported? second
  cases same.symm.trans again
  omega

/-- A service that says of each of two pages that it is the first one is asked for a third. -/
theorem fetchAll_beyond_total :
    let client := make "https://tidings.test" "secret" defaultPerPage
    let first := "\"current_page\": 1, "
    let service := pagesService
      [pageText "\x7b\"id\": 1\x7d" first, pageText "\x7b\"id\": 2\x7d" first, pageText "" first]
    (∀ number, client.Asked {} service number →
      ∃ page, client.foundPage {} service number = .ok page ∧ page.totalPages = (2 : Nat)) ∧
    ((client.fetchAll {}).run service).2.sent.length = 3 := by
  intro client first service
  have reported : ∀ number ∈ [1, 2, 3],
      reported? (client.foundPage {} service number) = some (number == 3, 1, 2) := by
    decide +kernel
  have final (number : Nat) (known : number ∈ [1, 2, 3]) :
      Final (client.foundPage {} service number) ↔ number = 3 := by
    rw [final_of_reported? (reported number known)]
    simp
  refine ⟨fun number asked => ?_, ?_⟩
  · have few := asked.le_of_final (by decide) ((final 3 (by decide)).2 rfl)
    have one := asked.1
    obtain ⟨page, same, _, _, total⟩ := exists_of_reported? (reported number (by simp; omega))
    exact ⟨page, same, total⟩
  · obtain ⟨last, walk⟩ := client.exists_walk_fetchAll {} service
    have few : last + 1 ≤ 3 :=
      (walk.asked (by omega) (Nat.le_refl _)).le_of_final (by decide) ((final 3 (by decide)).2 rfl)
    have ends := walk.final
    rw [pageAt_one, final (1 + last) (by simp; omega)] at ends
    obtain rfl : last = 2 := by omega
    refine walk.length_sent fun offset within => ?_
    obtain ⟨page, same, _⟩ := exists_of_reported? (reported (1 + offset) (by simp; omega))
    exact ⟨page, same⟩

end Client

end Triage
