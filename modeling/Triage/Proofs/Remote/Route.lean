import Triage.Proofs.Text.Words
import Triage.Proofs.Work
import Triage.Remote.Client

/-!
# Routes

The path of an address is in the form in which it is sent, so that it stays as it is when
the address gets another query.  Requests with different parameters are on one route.
-/

namespace Triage

namespace Text.Percent

variable {safe : Char → Bool} {character other : Char} {characters : List Char}

theorem of_mem_hexDigits {count value : Nat} (member : character ∈ hexDigits count value) :
    ∃ digit < 16, character = hexDigit digit := by
  induction count generalizing value with
  | zero => simp [hexDigits] at member
  | succ count ih =>
      rcases List.mem_append.1 member with front | last
      · exact ih front
      · exact ⟨value % 16, Nat.mod_lt _ (by decide), List.mem_singleton.1 last⟩

/-- The characters of an encoded byte. -/
theorem of_mem_byte {value : UInt8} (member : character ∈ byte value) :
    Address.isPathChar character = true ∧ character ≠ '/' := by
  have every : ∀ digit ∈ List.range 16,
      Address.isPathChar (asciiUpperChar (hexDigit digit)) = true ∧
        asciiUpperChar (hexDigit digit) ≠ '/' := by decide
  rcases List.mem_cons.1 member with rfl | inside
  · decide
  · obtain ⟨lower, digits, rfl⟩ := List.mem_map.1 inside
    obtain ⟨digit, small, rfl⟩ := of_mem_hexDigits digits
    exact every digit (List.mem_range.2 small)

theorem of_mem_char (member : other ∈ char character) :
    Address.isPathChar other = true ∧ other ≠ '/' := by
  obtain ⟨value, _, inside⟩ := List.mem_flatMap.1 member
  exact of_mem_byte inside

/-- Encoding a character leaves a percent sign. -/
theorem percent_mem_char (character : Char) : '%' ∈ char character := by
  have filled : utf8 [character] ≠ [] := by simp [utf8, String.utf8EncodeChar_ne_nil]
  obtain ⟨value, rest, same⟩ := List.exists_cons_of_ne_nil filled
  simp [char, same, byte]

/-- A text without percent signs is not encoded. -/
theorem encode_of_not_mem (plain : '%' ∉ encode safe characters) :
    encode safe characters = characters := by
  refine encode_eq_self fun character member => ?_
  cases passes : safe character with
  | true => rfl
  | false =>
      refine absurd (List.mem_flatMap.2 ⟨character, member, ?_⟩) plain
      rw [passes]
      exact percent_mem_char character

theorem not_mem_encode (absent : '/' ∉ characters) : '/' ∉ encode safe characters := by
  intro member
  obtain ⟨character, present, inside⟩ := List.mem_flatMap.1 member
  split at inside
  · rw [List.mem_singleton.1 inside] at absent
    exact absent present
  · exact (of_mem_char inside).2 rfl

theorem encode_append (front back : List Char) :
    encode safe (front ++ back) = encode safe front ++ encode safe back :=
  List.flatMap_append

theorem encode_intercalate (passes : safe character = true) (pieces : List (List Char)) :
    encode safe ([character].intercalate pieces) =
      [character].intercalate (pieces.map (encode safe)) := by
  have kept : encode safe [character] = [character] := encode_eq_self (by simpa using passes)
  induction pieces with
  | nil => rfl
  | cons piece rest ih =>
      cases rest with
      | nil => simp
      | cons next rest =>
          rw [List.intercalate_cons_cons, encode_append, encode_append, kept, ih]
          simp

end Text.Percent

namespace Address

/-! ## Paths without points -/

/-- A step that does not lead further down. -/
def IsPoint (step : List Char) : Prop :=
  step = ['.'] ∨ step = ['.', '.']

theorem of_mem_cancelSteps {before steps : List (List Char)} {step : List Char}
    (member : step ∈ cancelSteps before steps) : step ∈ before ∨ step ∈ steps ∧ ¬ IsPoint step := by
  induction steps generalizing before with
  | nil => exact .inl (by simpa [cancelSteps] using member)
  | cons next rest ih =>
      have later {known : List (List Char)} (inside : step ∈ cancelSteps known rest) :
          step ∈ known ∨ step ∈ next :: rest ∧ ¬ IsPoint step :=
        (ih inside).imp_right fun found => ⟨List.mem_cons_of_mem next found.1, found.2⟩
      rw [cancelSteps] at member
      split at member
      · exact later member
      · next single =>
          split at member
          · refine (later member).imp_left fun kept => ?_
            split at kept
            · exact kept
            · exact List.mem_of_mem_tail kept
          · next double =>
              rcases later member with kept | found
              · rcases List.mem_cons.1 kept with rfl | old
                · exact .inr ⟨by simp, not_or.2 ⟨by simpa using single, by simpa using double⟩⟩
                · exact .inl old
              · exact .inr found

/-- Nothing is cancelled where there are no points. -/
theorem cancelSteps_of_no_points {before steps : List (List Char)}
    (further : ∀ step ∈ steps, ¬ IsPoint step) :
    cancelSteps before steps = before.reverse ++ steps := by
  induction steps generalizing before with
  | nil => simp [cancelSteps]
  | cons step rest ih =>
      obtain ⟨single, double⟩ := not_or.1 (further step (by simp))
      rw [cancelSteps, if_neg (by simpa using single), if_neg (by simpa using double),
        ih fun other member => further other (by simp [member])]
      simp

theorem withoutPoints_eq_self {path : String}
    (further : ∀ step ∈ path.toList.splitOn '/', ¬ IsPoint step) : withoutPoints path = path := by
  rw [withoutPoints, Text.splitAt_eq_splitOn, Text.joinWith_eq_intercalate,
    cancelSteps_of_no_points further]
  simp [List.intercalate_splitOn]

/-- A path that was freed of points and encoded stays as it is. -/
theorem withoutPoints_encodePart (path : String) :
    withoutPoints (encodePart isPathChar (withoutPoints path)) =
      encodePart isPathChar (withoutPoints path) := by
  let steps := cancelSteps [] (path.toList.splitOn '/')
  have kept : ∀ step ∈ steps, step ∈ path.toList.splitOn '/' ∧ ¬ IsPoint step := fun step member =>
    (of_mem_cancelSteps member).resolve_left List.not_mem_nil
  have written : (encodePart isPathChar (withoutPoints path)).toList =
      ['/'].intercalate (steps.map (Text.Percent.encode isPathChar)) := by
    rw [withoutPoints, Text.splitAt_eq_splitOn, Text.joinWith_eq_intercalate, encodePart,
      String.toList_ofList, String.toList_ofList]
    exact Text.Percent.encode_intercalate (by decide) steps
  -- no slash is encoded or comes of encoding, so that steps are encoded one by one
  refine withoutPoints_eq_self fun step member point => ?_
  rw [written] at member
  by_cases none : steps = []
  · rw [none] at member
    simp [List.mem_singleton.1 member, IsPoint] at point
  · have apart : ∀ piece ∈ steps.map (Text.Percent.encode isPathChar), '/' ∉ piece := by
      intro piece mapped
      obtain ⟨source, known, rfl⟩ := List.mem_map.1 mapped
      exact Text.Percent.not_mem_encode (Text.not_mem_of_mem_splitOn (kept source known).1)
    rw [List.splitOn_intercalate '/' apart (by simpa using none)] at member
    obtain ⟨source, known, rfl⟩ := List.mem_map.1 member
    have plain : '%' ∉ Text.Percent.encode isPathChar source := by
      rcases point with same | same <;> simp [same]
    rw [Text.Percent.encode_of_not_mem plain] at point
    exact (kept source known).2 point

theorem encodePart_encodePart (path : String) :
    encodePart isPathChar (encodePart isPathChar path) = encodePart isPathChar path := by
  rw [encodePart, Text.Percent.encode_eq_self, String.ofList_toList]
  intro character member
  rw [encodePart, String.toList_ofList] at member
  obtain ⟨source, _, inside⟩ := List.mem_flatMap.1 member
  split at inside
  · next passes => rwa [List.mem_singleton.1 inside]
  · exact (Text.Percent.of_mem_char inside).1

/-! ## Addresses read anew -/

variable {parts : AddressParts} {address later : Address}

/-- The path of a relative address is encoded; any other is freed of points before. -/
theorem path_ofParts (read : ofParts parts = .ok address) :
    address.path = encodePart isPathChar parts.path ∧ address.scheme = "" ∧
        address.parts.authority = "" ∨
      address.path = encodePart isPathChar (withoutPoints parts.path) := by
  obtain ⟨host, _, found⟩ := Outcome.bind_eq_ok.1 read
  obtain ⟨port, _, found⟩ := Outcome.bind_eq_ok.1 found
  dsimp only at found
  generalize bareness : (parts.scheme.isEmpty &&
    (encodePart isUserInfoChar (String.ofList (splitAuthority parts.authority.toList).1)).isEmpty &&
    host.isEmpty && port.isNone) = isBare at found
  cases isBare with
  | false =>
      cases found
      exact .inr rfl
  | true =>
      simp only [if_true] at found
      split at found
      · cases found
      · cases found
        simp only [Bool.and_eq_true, String.isEmpty_iff, Option.isNone_iff_eq_none] at bareness
        obtain ⟨⟨⟨scheme, userInfo⟩, host⟩, port⟩ := bareness
        refine .inl ⟨rfl, by rw [scheme]; rfl, ?_⟩
        simp [Address.parts, hostText, userInfo, host, port]

theorem path_ofParts_of_relative (scheme : parts.scheme = "") (authority : parts.authority = "")
    (read : ofParts parts = .ok address) : address.path = encodePart isPathChar parts.path := by
  have noHost : readHost (splitAuthority "".toList).2.1 = .ok "" := rfl
  have noPort : readPort "" (String.ofList (splitAuthority "".toList).2.2) = .ok none := rfl
  have bareness : ("".isEmpty &&
      (encodePart isUserInfoChar (String.ofList (splitAuthority "".toList).1)).isEmpty &&
      "".isEmpty && (none : Option Int).isNone) = true := by decide
  rw [ofParts, scheme, authority, noHost] at read
  obtain ⟨host, ⟨⟩, found⟩ := Outcome.bind_eq_ok.1 read
  rw [noPort] at found
  obtain ⟨port, ⟨⟩, found⟩ := Outcome.bind_eq_ok.1 found
  simp only [bareness, if_true] at found
  split at found
  · cases found
  · cases found
    rfl

/-- An address that is read anew with another query keeps its path. -/
theorem path_withQuery {query : String} (read : ofParts parts = .ok address)
    (again : address.withQuery query = .ok later) : later.path = address.path := by
  rw [withQuery, ofChangedParts] at again
  split at again
  · cases again
  · rcases path_ofParts read with ⟨encoded, scheme, authority⟩ | encoded
    · have kept : later.path = encodePart isPathChar address.path :=
        @path_ofParts_of_relative { address.parts with query := some query } later scheme authority
          again
      rw [kept, encoded, encodePart_encodePart]
    · rcases path_ofParts again with ⟨kept, _⟩ | kept
      · rw [kept]
        change encodePart isPathChar address.path = address.path
        rw [encoded, encodePart_encodePart]
      · rw [kept]
        change encodePart isPathChar (withoutPoints address.path) = address.path
        rw [encoded, withoutPoints_encodePart, encodePart_encodePart]

theorem exists_parts_of_below {base : Address} {path : String}
    (found : base.below path = .ok address) : ∃ parts, ofParts parts = .ok address := by
  obtain ⟨relative, _, found⟩ := Outcome.bind_eq_ok.1 found
  rw [withTarget, ofChangedParts] at found
  split at found
  · cases found
  · exact ⟨_, found⟩

end Address

namespace Client

variable {client : Client} {method path : String} {address : Address} {request : Request}

/-- Parameters leave the path of an address as it is. -/
theorem path_extended {base : Address} {parameters : Option (List (String × String))}
    (found : extended base path parameters = .ok address) :
    ∃ plain, extended base path none = .ok plain ∧ plain.path = address.path := by
  obtain ⟨plain, below, found⟩ := Outcome.bind_eq_ok.1 found
  obtain ⟨parts, read⟩ := Address.exists_parts_of_below below
  refine ⟨plain, by rw [extended, below]; rfl, ?_⟩
  cases parameters with
  | none =>
      cases found
      rfl
  | some given => exact (Address.path_withQuery read found).symm

/-- A request is on the route of its method and its path, whatever its parameters are. -/
theorem routeOf_makeRequest {parameters : Option (List (String × String))}
    (made : client.makeRequest method path parameters = .ok (address, request)) :
    routeOf method address = client.route method path := by
  obtain ⟨base, based, made⟩ := Outcome.bind_eq_ok.1 made
  obtain ⟨_, _, made⟩ := Outcome.bind_eq_ok.1 made
  obtain ⟨found, below, made⟩ := Outcome.bind_eq_ok.1 made
  have same : found = address := by
    dsimp only at made
    split at made
    · cases made
    · obtain ⟨_, _, made⟩ := Outcome.bind_eq_ok.1 made
      cases made
      rfl
  obtain ⟨plain, reached, kept⟩ := path_extended (Outcome.mapError_eq_ok.1 below)
  have led : client.address path none = .ok plain := by
    rw [Client.address, Outcome.mapError_eq_ok.1 based]
    exact reached
  rw [route, led, ← same]
  simp only [routeOf, Address.plainPath, Address.givenPath, kept]

end Client

end Triage
