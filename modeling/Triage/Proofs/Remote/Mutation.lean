import Triage.Proofs.Work
import Triage.Remote.Client

/-!
# Mutations at the service

A mutation of the notifications of a plan is one request.  It succeeds only if the
request could be made and was answered with a status of success, and then nothing else
was sent.
-/

namespace Triage.Client

variable {client : Client} {wire after : Wire}

/-- A call was made with one request, which the service answered with a status of
success. -/
def Granted (client : Client) (call : Call) (wire after : Wire) : Prop :=
  ∃ address request status body,
    client.makeRequest call.1 call.2.1 call.2.2 = .ok (address, request) ∧
      wire.nextReply (routeOf call.1 address) = .answer status body ∧
      200 ≤ status ∧ status < 300 ∧ after = wire.send (routeOf call.1 address) request

/-- The content of an answer can be used only if its status reports success. -/
theorem content_eq_ok {method path address body : String} {reply : Reply}
    (usable : content method path address reply = .ok body) :
    ∃ status, reply = .answer status body ∧ 200 ≤ status ∧ status < 300 := by
  cases reply with
  | lost reason => cases usable
  | answer status text =>
      rw [content] at usable
      split at usable
      · cases usable
      · next fine =>
          cases usable
          rw [statusError?] at fine
          split at fine
          · next within => exact ⟨status, rfl, by simpa using within⟩
          · split at fine
            · cases fine
            · split at fine
              · cases fine
              · split at fine <;> cases fine

theorem granted_of_request {method path : String}
    {parameters : Option (List (String × String))} {response : Response}
    (done : (client.request method path parameters).run wire = (.ok response, after)) :
    client.Granted (method, path, parameters) wire after := by
  rw [request] at done
  split at done
  · cases done
  · next address request made =>
      obtain ⟨_, _, ⟨⟩, done⟩ := Work.bind_eq_ok done
      obtain ⟨_, _, ⟨⟩, done⟩ := Work.bind_eq_ok done
      split at done
      · cases done
      · split at done
        · next body usable =>
            cases done
            obtain ⟨status, answered, least, most⟩ := content_eq_ok usable
            exact ⟨address, request, status, body, made, answered, least, most, rfl⟩
        · cases done

theorem granted_of_send {call : Call} (done : (client.send call).run wire = (.ok (), after)) :
    client.Granted call wire after := by
  obtain ⟨response, between, answered, done⟩ := Work.bind_eq_ok done
  cases done
  exact granted_of_request answered

theorem granted_of_sendWith {values : List Json} {call : Call}
    (done : (client.sendWith values call).run wire = (.ok (), after)) :
    client.Granted call wire after := by
  obtain ⟨_, between, checked, done⟩ := Work.bind_eq_ok done
  rw [Work.run_ofExcept] at checked
  obtain ⟨-, rfl⟩ := Prod.mk.inj checked
  exact granted_of_send done

/-- A mutation that is one call and succeeds was granted. -/
theorem granted_of_mutate {mutation : Mutation} {ids : List Int} {call : Call}
    (one : mutationCalls mutation ids = [call])
    (done : (client.mutate mutation ids).run wire = (.ok (), after)) :
    client.Granted call wire after := by
  cases mutation with
  | star =>
      obtain ⟨id, rfl, rfl⟩ := List.map_eq_singleton_iff.1 one
      rw [mutate, Work.run_forM_singleton] at done
      exact granted_of_sendWith done
  | archive | unarchive | mute | markRead =>
      cases one
      exact granted_of_sendWith done

/-- A star is for one notification, and any other mutation is one call for however
many. -/
theorem exists_mutationCalls_eq {mutation : Mutation} {ids : List Int}
    (single : mutation = .star → ids.length = 1) :
    ∃ call, mutationCalls mutation ids = [call] := by
  cases mutation with
  | star =>
      obtain ⟨id, rfl⟩ := List.length_eq_one_iff.1 (single rfl)
      exact ⟨_, rfl⟩
  | archive | unarchive | mute | markRead => exact ⟨_, rfl⟩

end Triage.Client
