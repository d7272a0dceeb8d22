import Mathlib.Data.List.TakeWhile
import Triage.Proofs.Settings.Merge
import Triage.Proofs.Toml.Tables
import Triage.Settings.Surroundings

/-!
# The token

Where the token comes from: the environment, the file of settings and the file of the token are
looked at in this order, and the first of them that holds more than blanks gives it.  A text of
blanks alone, unless it is in the file of the token, stands in the way of the others.
-/

namespace Triage

namespace Text

/-- There are only blanks in a text. -/
def Blank (text : String) : Prop :=
  ∀ character ∈ text.toList, isBlank character = true

instance (text : String) : Decidable (Blank text) :=
  decidable_of_iff (text.toList.all isBlank = true) List.all_eq_true

theorem blank_empty : Blank "" := by
  intro character member
  exact absurd member List.not_mem_nil

theorem trimWhile_eq_nil_iff {test : Char → Bool} {characters : List Char} :
    trimWhile test characters = [] ↔ ∀ character ∈ characters, test character = true := by
  rw [trimWhile, dropWhileEnd, List.reverse_eq_nil_iff, List.dropWhile_eq_nil_iff]
  constructor
  · intro dropped character member
    rw [← List.takeWhile_append_dropWhile (p := test) (l := characters)] at member
    rcases List.mem_append.1 member with taken | left
    · exact List.mem_takeWhile_imp taken
    · exact dropped character (List.mem_reverse.2 left)
  · intro every character member
    exact every character ((List.dropWhile_suffix test).subset (List.mem_reverse.1 member))

/-- Nothing is left of a text without the blanks at its ends if there is nothing else. -/
theorem strip_eq_empty_iff {text : String} : strip text = "" ↔ Blank text := by
  rw [Blank, ← trimWhile_eq_nil_iff, strip, ← String.toList_inj, String.toList_ofList]
  rfl

end Text

/-! ## The first text that says something -/

/-- What a text says: it is taken without the blanks at its ends, if there is anything else. -/
def said? (text : Option String) : Option String :=
  (text.filter fun text => !decide (Text.Blank text)).map Text.strip

/-- A text that is not empty, without the blanks at its ends. -/
def taken? (text : Option String) : Option String :=
  (text.filter fun text => !text.isEmpty).map Text.strip

/-- What the first of some texts says that says anything. -/
def firstSaid? (texts : List (Option String)) : Option String :=
  texts.findSome? said?

/-- A text is given that consists of blanks, but is not empty. -/
def OnlyBlanks (text : Option String) : Prop :=
  ∃ blanks, text = some blanks ∧ blanks ≠ "" ∧ Text.Blank blanks

theorem said?_of_blank {text : String} (blank : Text.Blank text) : said? (some text) = none := by
  simp [said?, blank]

theorem said?_of_not_blank {text : String} (more : ¬ Text.Blank text) :
    said? (some text) = some (Text.strip text) := by
  simp [said?, more]

/-- A text of blanks alone says nothing, and is taken for the empty text. -/
theorem OnlyBlanks.said?_and_taken? {text : Option String} (blanks : OnlyBlanks text) :
    said? text = none ∧ taken? text = some "" := by
  obtain ⟨known, rfl, given, blank⟩ := blanks
  refine ⟨said?_of_blank blank, ?_⟩
  simp [taken?, given, Text.strip_eq_empty_iff.2 blank]

/-- Any other text is taken for what it says. -/
theorem taken?_of_not_onlyBlanks {text : Option String} (more : ¬ OnlyBlanks text) :
    taken? text = said? text := by
  cases text with
  | none => rfl
  | some text =>
      by_cases blank : Text.Blank text
      · have empty : text = "" := by
          by_contra given
          exact more ⟨text, rfl, given, blank⟩
        rw [said?_of_blank blank, empty]
        rfl
      · have given : text ≠ "" := fun empty => blank (empty ▸ Text.blank_empty)
        simp [taken?, said?_of_not_blank blank, given]

theorem said?_ne_empty (text : Option String) : said? text ≠ some "" := by
  cases text with
  | none => nofun
  | some text =>
      by_cases blank : Text.Blank text
      · rw [said?_of_blank blank]
        nofun
      · rw [said?_of_not_blank blank]
        exact fun empty => blank (Text.strip_eq_empty_iff.1 (Option.some.inj empty))

@[simp] theorem firstSaid?_nil : firstSaid? [] = none := rfl

theorem firstSaid?_cons (text : Option String) (rest : List (Option String)) :
    firstSaid? (text :: rest) = (said? text).or (firstSaid? rest) := by
  rw [firstSaid?, List.findSome?_cons]
  cases said? text <;> rfl

theorem firstSaid?_ne_empty (texts : List (Option String)) : firstSaid? texts ≠ some "" := by
  intro found
  obtain ⟨text, _, said⟩ := List.exists_of_findSome?_eq_some found
  exact said?_ne_empty text said

namespace Surroundings

variable {around : Surroundings} {given : Json} {own loaded : Json.Fields}

/-! ## The settings of the user -/

/-- The settings of the file; without a file there are none. -/
def written (around : Surroundings) : Except Error Json.Fields := do
  match ← around.readFile around.settingsLocation with
  | none => return []
  | some text =>
      match Toml.read text with
      | .ok fields => return fields
      | .error fault => throw (.settings fault (around.complaint text))

theorem fileSettings_eq (around : Surroundings) :
    around.fileSettings = Settings.merge defaultSettings <$> around.written := by
  rw [fileSettings, written]
  cases around.readFile around.settingsLocation with
  | error error => rfl
  | ok text =>
      cases text with
      | none =>
          simp only [bind, Except.bind, pure, Except.pure, Functor.map, Except.map,
            Settings.merge_nil]
      | some text =>
          simp only [bind, Except.bind, pure, Except.pure]
          cases Toml.read text <;> rfl

theorem distinct_of_written (done : around.written = .ok own) : (Json.obj own).Distinct := by
  obtain ⟨text, _, done⟩ := Outcome.bind_eq_ok.1 done
  cases text with
  | none =>
      cases done
      exact Json.distinct_nil
  | some text =>
      dsimp only at done
      split at done
      · next fields read =>
          cases done
          exact Toml.distinct_of_read read
      · cases done

/-- The token that the user sets is the one of the settings, as no default is one. -/
theorem at?_token_merge (distinct : (Json.obj own).Distinct) :
    (Json.obj (Settings.merge defaultSettings own)).at? ["remote", "api_token"] =
      (Json.obj own).at? ["remote", "api_token"] := by
  have unset : (Json.obj defaultSettings).at? ["remote", "api_token"] = none := rfl
  rw [Settings.obj_merge]
  by_cases blocked : (Json.obj own).Blocks ["remote", "api_token"]
  · rw [Settings.at?_mergeValue_of_blocks distinct blocked, Json.at?_eq_none_of_blocks blocked]
  · cases found : (Json.obj own).at? ["remote", "api_token"] with
    | none => rw [Settings.at?_mergeValue_of_none distinct found blocked, Option.bind_some, unset]
    | some value =>
        rw [Settings.at?_mergeValue_of_some distinct found, Option.bind_some, unset,
          Settings.mergeValue_none]

/-- The address is the only part of the section about the service that is changed from outside. -/
theorem overrideAddress_eq_ok {address : Option String} {remote : Json} {after : Json.Fields}
    (done : overrideAddress address remote = .ok (.obj after)) :
    ∃ before, remote = .obj before ∧
      ∀ key, key ≠ "base_url" → after.lookup key = before.lookup key := by
  cases address with
  | none =>
      cases done
      exact ⟨after, rfl, fun _ _ => rfl⟩
  | some text =>
      cases remote with
      | obj before =>
          cases done
          refine ⟨before, rfl, fun key other => ?_⟩
          rw [Keyed.lookup_put, if_neg (by simpa using other)]
      | _ => cases done

theorem trimAddress_eq_ok {remote trimmed : Json} (done : trimAddress remote = .ok trimmed) :
    ∃ before after, remote = .obj before ∧ trimmed = .obj after ∧
      ∀ key, key ≠ "base_url" → after.lookup key = before.lookup key := by
  cases remote with
  | obj before =>
      rw [trimAddress] at done
      split at done
      · cases done
        refine ⟨before, _, rfl, rfl, fun key other => ?_⟩
        rw [Keyed.lookup_put, if_neg (by simpa using other)]
      · cases done
  | _ => cases done

/-- Where settings can be loaded, they have a section about the service whose token is the one
that the user sets. -/
theorem exists_section_of_settings (done : around.settings = .ok loaded) :
    ∃ own remote, around.written = .ok own ∧ loaded.lookup "remote" = some (.obj remote) ∧
      remote.lookup "api_token" = (Json.obj own).at? ["remote", "api_token"] := by
  obtain ⟨found, read, done⟩ := Outcome.bind_eq_ok.1 done
  obtain ⟨changed, overridden, done⟩ := Outcome.bind_eq_ok.1 done
  obtain ⟨trimmed, shortened, done⟩ := Outcome.bind_eq_ok.1 done
  cases done
  rw [fileSettings_eq] at read
  obtain ⟨own, mine, rfl⟩ := Outcome.map_eq_ok.1 read
  obtain ⟨between, remote, rfl, rfl, kept⟩ := trimAddress_eq_ok shortened
  obtain ⟨before, known, kept'⟩ := overrideAddress_eq_ok overridden
  have sectioned : (Settings.merge defaultSettings own).lookup "remote" = some (.obj before) := by
    rw [Json.Fields.getD] at known
    cases given : (Settings.merge defaultSettings own).lookup "remote" with
    | none =>
        rw [given] at known
        cases known
    | some value =>
        rw [given] at known
        rw [← known]
        rfl
  refine ⟨own, remote, mine, ?_, ?_⟩
  · rw [Keyed.lookup_put, if_pos (by simp)]
  · rw [kept _ (by decide), kept' _ (by decide), ← at?_token_merge (distinct_of_written mine),
      Json.at?_obj_cons, sectioned]
    simp

/-! ## Looking for a token -/

/-- What the places hold in which a token is looked for: a variable of the environment, an entry
of the file of settings, and a file of its own, whose lines all end in line feeds when it is
read. -/
structure TokenPlaces (around : Surroundings) (named listed kept : Option String) : Prop where
  environment : around.lookup? "TIDINGS_API_TOKEN" = named
  settings : ∃ own, around.written = .ok own ∧
    (Json.obj own).at? ["remote", "api_token"] = listed.map .str
  file : ∃ text, around.readFile around.tokenLocation = .ok text ∧
    kept = text.map Text.withLineFeeds

variable {named listed kept : Option String}

/-- The settings in which the token is looked up are the loaded ones: they are given, or none
are. -/
def AsksLoaded (given : Json) (loaded : Json.Fields) : Prop :=
  given.truthy = false ∨ given = .obj loaded

theorem AsksLoaded.tokenSettings (asked : AsksLoaded given loaded)
    (settings : around.settings = .ok loaded) :
    around.tokenSettings given = .ok (.obj loaded) := by
  rw [Surroundings.tokenSettings, settings]
  rcases asked with falsy | rfl
  · rw [falsy]
    rfl
  · split <;> rfl

theorem TokenPlaces.fileToken? (places : around.TokenPlaces named listed kept) :
    around.fileToken? = .ok (said? kept) := by
  obtain ⟨text, read, rfl⟩ := places.file
  rw [Surroundings.fileToken?, read]
  refine congrArg Except.ok ?_
  cases text with
  | none => rfl
  | some text =>
      rw [Option.map_some, Option.map_some]
      by_cases blank : Text.Blank (Text.withLineFeeds text)
      · simp [said?_of_blank blank, Text.strip_eq_empty_iff.2 blank]
      · have given : Text.strip (Text.withLineFeeds text) ≠ "" :=
          mt Text.strip_eq_empty_iff.1 blank
        simp [said?_of_not_blank blank, given]

/-- The token is what is taken from the environment, else what is taken from the settings, and
else what its own file says. -/
theorem TokenPlaces.token?_eq (places : around.TokenPlaces named listed kept)
    (settings : around.settings = .ok loaded) (asked : AsksLoaded given loaded) :
    around.token? given = .ok ((taken? named).or ((taken? listed).or (said? kept))) := by
  rw [Surroundings.token?, Surroundings.given?, places.environment]
  cases filled : named.filter fun text => !text.isEmpty with
  | some text => simp [taken?, filled]
  | none =>
      obtain ⟨own, remote, written, sectioned, known⟩ := exists_section_of_settings settings
      obtain ⟨other, read, found⟩ := places.settings
      cases Except.ok.inj (written.symm.trans read)
      have unnamed : taken? named = none := by simp [taken?, filled]
      rw [unnamed, Option.none_or, asked.tokenSettings settings]
      simp only [bind, Except.bind, remoteSection, Json.Fields.get?, sectioned, Option.getD_some,
        sectionToken, Json.Fields.getD, known, found, places.fileToken?]
      cases listed with
      | none => rfl
      | some text =>
          by_cases empty : text = ""
          · subst empty
            rfl
          · have taken : taken? (some text) = some (Text.strip text) := by simp [taken?, empty]
            have truthy : (Json.str text).truthy = true := by simp [Json.truthy, empty]
            rw [taken, Option.map_some, Option.getD_some, truthy]
            rfl

/-- A text of blanks alone stands in the way: in the environment, or in the settings if the
environment says nothing. -/
def BlanksInWay (named listed : Option String) : Prop :=
  OnlyBlanks named ∨ (said? named = none ∧ OnlyBlanks listed)

/-- Where settings can be loaded, and whether these are given to the search for a token or none
are: the token is what the first text says that says anything, of the one in the environment,
the one in the settings and the one in the token's file, without the blanks at its ends; if none
does, there is no token.  A token found in this way is never empty.  Only where a text of blanks
stands in the way the empty text is found instead. -/
theorem token_of_first_place (places : around.TokenPlaces named listed kept)
    (settings : around.settings = .ok loaded) (asked : AsksLoaded given loaded) :
    (¬ BlanksInWay named listed → around.token? given = .ok (firstSaid? [named, listed, kept])) ∧
      (BlanksInWay named listed → around.token? given = .ok (some "")) ∧
      firstSaid? [named, listed, kept] ≠ some "" := by
  rw [places.token?_eq settings asked]
  refine ⟨fun free => ?_, ?_, firstSaid?_ne_empty _⟩
  · obtain ⟨freeNamed, freeListed⟩ := not_or.1 free
    rw [taken?_of_not_onlyBlanks freeNamed, firstSaid?_cons, firstSaid?_cons, firstSaid?_cons,
      firstSaid?_nil, Option.or_none]
    cases said : said? named with
    | some text => rfl
    | none => rw [taken?_of_not_onlyBlanks fun blanks => freeListed ⟨said, blanks⟩]
  · rintro (blanks | ⟨silent, blanks⟩)
    · rw [blanks.said?_and_taken?.2, Option.some_or]
    · by_cases first : OnlyBlanks named
      · rw [first.said?_and_taken?.2, Option.some_or]
      · rw [taken?_of_not_onlyBlanks first, silent, blanks.said?_and_taken?.2, Option.none_or,
          Option.some_or]

/-- The settings of a user who sets a token with blanks around it. -/
def tokenSetting : Json.Fields :=
  [("remote", .obj [("api_token", .str " listed ")])]

/-- The variable of the environment is empty, and a token was kept besides the one set. -/
def twiceGiven : Surroundings where
  environment := [("TIDINGS_API_TOKEN", "")]
  home := ⟨"/", ["home"]⟩
  files := [("/home/.config/tidings/config.toml", "[remote]\napi_token = \" listed \"\n"),
    ("/home/.tidings/token", "kept\n")]

theorem token_of_twiceGiven :
    twiceGiven.TokenPlaces (some "") (some " listed ") (some "kept\n") ∧
      twiceGiven.settings = .ok (Settings.merge defaultSettings tokenSetting) ∧
      AsksLoaded .null (Settings.merge defaultSettings tokenSetting) ∧
      ¬ BlanksInWay (some "") (some " listed ") ∧
      twiceGiven.token? .null = .ok (some "listed") := by
  have places : twiceGiven.TokenPlaces (some "") (some " listed ") (some "kept\n") :=
    ⟨rfl, ⟨tokenSetting, by decide +kernel, rfl⟩, ⟨some "kept\n", by decide +kernel, by decide⟩⟩
  have settings : twiceGiven.settings = .ok (Settings.merge defaultSettings tokenSetting) := by
    decide +kernel
  have asked : AsksLoaded .null (Settings.merge defaultSettings tokenSetting) := .inl rfl
  have free : ¬ BlanksInWay (some "") (some " listed ") := by
    rintro (⟨blanks, same, given, _⟩ | ⟨_, blanks, same, _, blank⟩)
    · exact given (Option.some.inj same).symm
    · cases same
      exact absurd blank (by decide)
  refine ⟨places, settings, asked, free, ?_⟩
  rw [(token_of_first_place places settings asked).1 free]
  decide +kernel

/-- The variable of the environment is a blank, and a token was kept. -/
def blankNamed : Surroundings where
  environment := [("TIDINGS_API_TOKEN", " ")]
  home := ⟨"/", ["home"]⟩
  files := [("/home/.tidings/token", "kept\n")]

/-- The blank hides the token that was kept. -/
theorem kept_token_hidden :
    blankNamed.TokenPlaces (some " ") none (some "kept\n") ∧
      blankNamed.settings = .ok defaultSettings ∧
      firstSaid? [some " ", none, some "kept\n"] = some "kept" ∧
      blankNamed.token? .null = .ok (some "") := by
  refine ⟨⟨rfl, ⟨[], by decide +kernel, rfl⟩, ⟨some "kept\n", by decide +kernel, by decide⟩⟩, ?_⟩
  exact ⟨by decide +kernel, by decide +kernel, by decide +kernel⟩

end Surroundings

end Triage
