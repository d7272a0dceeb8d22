import Triage.Proofs.Remote.Endings

/-!
# What is sent

Work with the service sends its requests behind those that were sent before, whatever the
answers are.  Fetching sends nothing but requests for pages and for saved searches, the first
of them for the first page.
-/

namespace Triage.Client

variable {α β : Type} {client : Client} {kind : Request → Prop} {first : Request}

/-! ## Requests of a kind -/

/-- Every request that work sends is of a kind. -/
def Sends (kind : Request → Prop) (work : RemoteAccess α) : Prop :=
  ∀ wire, ∃ later, (work.run wire).2.sent = wire.sent ++ later ∧ ∀ request ∈ later, kind request

/-- The first request that work sends is a given one. -/
def Starts (first : Request) (work : RemoteAccess α) : Prop :=
  ∀ wire, ∃ later, (work.run wire).2.sent = wire.sent ++ first :: later

theorem Sends.only {work : RemoteAccess α} (sends : Sends kind work)
    (replies : List (String × List Reply)) :
    ∀ request ∈ (work.run ⟨replies, []⟩).2.sent, kind request := by
  obtain ⟨later, sent, kinds⟩ := sends ⟨replies, []⟩
  rwa [sent, List.nil_append]

theorem Starts.head? {work : RemoteAccess α} (starts : Starts first work)
    (replies : List (String × List Reply)) :
    (work.run ⟨replies, []⟩).2.sent.head? = some first := by
  obtain ⟨later, sent⟩ := starts ⟨replies, []⟩
  rw [sent, List.nil_append, List.head?_cons]

theorem Sends.bind {work : RemoteAccess α} {next : α → RemoteAccess β} (sends : Sends kind work)
    (rest : ∀ value, Sends kind (next value)) : Sends kind (work >>= next) := by
  intro wire
  obtain ⟨sent, ran, kinds⟩ := sends wire
  rw [Work.run_bind]
  split
  · next value between done =>
      rw [done] at ran
      obtain ⟨later, after, others⟩ := rest value between
      exact ⟨sent ++ later, by rw [after, ran, List.append_assoc],
        List.forall_mem_append.2 ⟨kinds, others⟩⟩
  · next error between failed =>
      rw [failed] at ran
      exact ⟨sent, ran, kinds⟩

theorem Starts.bind {work : RemoteAccess α} {next : α → RemoteAccess β}
    (starts : Starts first work) (rest : ∀ value, Sends kind (next value)) :
    Starts first (work >>= next) := by
  intro wire
  obtain ⟨sent, ran⟩ := starts wire
  rw [Work.run_bind]
  split
  · next value between done =>
      rw [done] at ran
      obtain ⟨later, after, _⟩ := rest value between
      exact ⟨sent ++ later, by rw [after, ran, List.append_assoc, List.cons_append]⟩
  · next error between failed =>
      rw [failed] at ran
      exact ⟨sent, ran⟩

theorem Starts.checked {check : Except Error Unit} {work : RemoteAccess α}
    (passes : check = .ok ()) (starts : Starts first work) :
    Starts first (MonadExcept.ofExcept check >>= fun _ => work) := by
  intro wire
  rw [Work.run_bind, Work.run_ofExcept, passes]
  exact starts wire

/-! ## One request -/

section Call

variable {method path : String} {parameters : Option (List (String × String))}

/-- Whatever the answer is, a request is sent if it can be made. -/
theorem sent_request (client : Client) (method path : String)
    (parameters : Option (List (String × String))) (wire : Wire) :
    ((client.request method path parameters).run wire).2.sent =
      match client.makeRequest method path parameters with
      | .ok (_, request) => wire.sent ++ [request]
      | .error _ => wire.sent := by
  have exchange := client.exchange_request (method, path, parameters) wire
  generalize (client.request method path parameters).run wire = done at exchange
  cases exchange with
  | unsent known => rw [known]
  | unread known | failed known | answered known =>
      rw [known]
      rfl

end Call

/-! ## The request for a page -/

/-- The texts of a parameter with a value.  An integer and a text are sent as they read. -/
def textsOf : Json → List String
  | .int value => [toString value]
  | .str text => [text]
  | value => parameterTexts value

/-- The texts of a parameter that may be left out; without a value, or with an empty text, it
is. -/
def textsIfGiven : Json → List String
  | .null | .str "" => []
  | value => if value.truthy then textsOf value else []

/-- What every page is asked for with besides its number: how many notifications are on a page,
and the filters that are given. -/
def sharedParameters (client : Client) (filter : PageFilter) : List (String × String) :=
  (textsOf client.perPage).map (("per_page", ·)) ++
    filter.starred.toList.map (fun value => ("starred", if value then "true" else "false")) ++
    filter.archived.toList.map (fun value => ("archive", if value then "true" else "false")) ++
    (textsIfGiven filter.query).map (("q", ·))

/-- The request for the page of a number, if the values in it can be written and it can be
made. -/
def pageRequest? (client : Client) (filter : PageFilter) (number : Nat) : Option Request :=
  match [.int number, client.perPage, filter.query].findSome?
      (Json.plainFault? client.room.writing),
    client.makeRequest "GET" pagePath
      (some (("page", toString number) :: client.sharedParameters filter)) with
  | none, .ok (_, request) => some request
  | _, _ => none

theorem parameterTexts_eq (value : Json) : parameterTexts value = textsOf value := by
  cases value <;> rfl

theorem textsIfGiven_eq (value : Json) :
    (if value.truthy then parameterTexts value else []) = textsIfGiven value := by
  fun_cases textsIfGiven value with
  | case1 => rfl
  | case2 => rfl
  | case3 => simp_all [parameterTexts_eq]
  | case4 => simp_all

/-- The parameters by which pages are asked for differ in the number only. -/
theorem pageParameters_eq (client : Client) (filter : PageFilter) (number : Nat) :
    client.pageParameters (.int number) filter =
      ("page", toString number) :: client.sharedParameters filter := by
  obtain ⟨starred, archived, query⟩ := filter
  simp only [pageParameters, sharedParameters, parameter, ← textsIfGiven_eq, ← parameterTexts_eq]
  cases starred <;> cases archived <;> rfl

theorem checkWritable_eq_ok {values : List Json} :
    client.checkWritable values = .ok () ↔
      values.findSome? (Json.plainFault? client.room.writing) = none := by
  rw [checkWritable]
  cases values.findSome? (Json.plainFault? client.room.writing) <;> simp

theorem pageRequest?_eq (client : Client) (filter : PageFilter) (number : Nat) :
    client.pageRequest? filter number =
      match client.checkWritable [.int number, client.perPage, filter.query],
        client.makeRequest "GET" pagePath
          (some (client.pageParameters (.int number) filter)) with
      | .ok (), .ok (_, request) => some request
      | _, _ => none := by
  rw [pageRequest?, checkWritable, ← pageParameters_eq]
  generalize client.makeRequest "GET" pagePath _ = made
  cases [.int number, client.perPage, filter.query].findSome?
    (Json.plainFault? client.room.writing) <;> cases made <;> rfl

/-! ## Fetching -/

end Triage.Client
