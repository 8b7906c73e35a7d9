import Messanger.Auth.CommandsCore
import Messanger.Library.Texts
import Messanger.Library.Uuid
import Messanger.Messages.Models

/-!
The name of a user whom a provider sends: the preferred one, else the local part of the email, else
`user`, brought into the characters of a registration, with a random suffix where it is too short,
reserved or taken.
-/

namespace Messanger.Auth

open Processes

/-- The `Field` of `UserCreateRequest.username`. -/
def UserCreateRequest.acceptsUsername (username : String) : Bool :=
  decide (4 ≤ username.length) && decide (username.length ≤ 100) &&
    username.toList.all fun char => char.isAlphanum || [' ', ',', '.', '\x27', '-'].contains char

namespace UsernameGenerator

def minLength : Nat := 4

def maxLength : Nat := 100

def suffixLength : Nat := 7

def baseMaxLength : Nat := maxLength - suffixLength

def fallbackBase : String := "user"

def attempts : Nat := 5

def cyrillic : List (Char × String) :=
  [('а', "a"), ('б', "b"), ('в', "v"), ('г', "g"), ('д', "d"), ('е', "e"), ('ё', "e"), ('ж', "zh"),
    ('з', "z"), ('и', "i"), ('й', "i"), ('к', "k"), ('л', "l"), ('м', "m"), ('н', "n"), ('о', "o"),
    ('п', "p"), ('р', "r"), ('с', "s"), ('т', "t"), ('у', "u"), ('ф', "f"), ('х', "h"), ('ц', "c"),
    ('ч', "ch"), ('ш', "sh"), ('щ', "sch"), ('ъ', ""), ('ы', "y"), ('ь', ""), ('э', "e"),
    ('ю', "yu"), ('я', "ya")]

def upper (letter : Char) : Char :=
  if letter.toNat < 0x450 then Char.ofNat (letter.toNat - 0x20) else Char.ofNat (letter.toNat - 0x50)

def capitalize (latin : String) : String :=
  match latin.toList with
  | [] => ""
  | first :: rest => String.ofList (first.toUpper :: rest.map Char.toLower)

def translit : List (Char × String) :=
  cyrillic ++ (cyrillic.filter fun entry => entry.2 ≠ "").map fun entry =>
    (upper entry.1, capitalize entry.2)

def trim : List Char := [' ', ',', '.', '\x27', '-']

/-- What `_DISALLOWED` does not match. -/
def allowed (char : Char) : Bool := char.isAlphanum || trim.contains char

def transliterate (char : Char) : List Char :=
  match translit.lookup char with
  | some latin => latin.toList
  | none => [char]

def cleaned (raw : String) : List Char :=
  (raw.toList.flatMap transliterate).map fun char => if allowed char then char else ' '

def normalizeUsername : Option String → String
  | none => ""
  | some raw =>
      if raw = "" then ""
      else
        let spaced := Texts.squeeze Message.isSpace ' ' false (cleaned raw)
        String.ofList (Python.stripChars trim ((Python.stripChars trim spaced).take baseMaxLength))

/-- What is drawn: the `token_hex(3)` of each attempt, and the `uuid4` of the last resort. -/
structure Drawn where
  token : Nat → Nat
  uuid : Nat

/-- `email.split("@", 1)[0]`. -/
def localPart (email : String) : String := String.ofList (email.toList.takeWhile (· ≠ '@'))

def baseOf (preferred : Option String) (email : String) : String :=
  if normalizeUsername preferred ≠ "" then normalizeUsername preferred
  else if normalizeUsername (some (localPart email)) ≠ "" then
    normalizeUsername (some (localPart email))
  else fallbackBase

def candidate (base : String) (token : Nat) : String :=
  base ++ "-" ++ String.ofList (Python.hexDigits 6 token)

def lastResort (base : String) (uuid : Nat) : String :=
  String.ofList ((base ++ "-" ++ String.ofList (Python.hexDigits 32 uuid)).toList.take maxLength)

section Code

variable (services : Services) {Label : Type} (checks : String → Label)

def isFree (username : String) : Process World Label AuthError Bool :=
  if isReservedUsername services username then pure false
  else do
    let taken ← .observe (checks username) (·.usernameTaken username none)
    pure !taken

def tryCandidates (base : String) (drawn : Drawn) : List Nat → Process World Label AuthError String
  | [] => pure (lastResort base drawn.uuid)
  | attempt :: rest => do
      let free ← isFree services checks (candidate base (drawn.token attempt))
      if free then pure (candidate base (drawn.token attempt)) else tryCandidates base drawn rest

/-- Each check is written down as what `checks` makes of the name. -/
def generate (preferred : Option String) (email : String) (drawn : Drawn) :
    Process World Label AuthError String :=
  let base := baseOf preferred email
  if minLength ≤ base.length then do
    let free ← isFree services checks base
    if free then pure base else tryCandidates services checks base drawn (List.range attempts)
  else tryCandidates services checks base drawn (List.range attempts)

end Code

section Normal

/-- What `normalize_username` makes of texts, and leaves as it is. -/
structure Normal (username : String) : Prop where
  plain : ∀ char ∈ username.toList, allowed char = true
  tidy : Texts.Tidy trim.contains Message.isSpace baseMaxLength username.toList

theorem code_of_allowed {char : Char} (plain : allowed char = true) :
    char.toNat < 128 ∧ (Message.isSpace char = true → char = ' ') := by
  have marks : ∀ char ∈ trim, char.toNat < 128 ∧ (Message.isSpace char = true → char = ' ') := by
    simp only [trim, List.mem_cons, List.not_mem_nil, or_false, forall_eq_or_imp, forall_eq]
    decide
  by_cases mark : char ∈ trim
  · exact marks char mark
  · simp only [allowed, Bool.or_eq_true, List.contains_iff_mem, mark, or_false] at plain
    have code := Texts.alphanum_code plain
    refine ⟨by omega, fun space => ?_⟩
    simp only [Message.isSpace, Bool.or_eq_true, Bool.and_eq_true, beq_iff_eq, decide_eq_true_eq]
      at space
    omega

theorem cleaned_allowed {raw : String} {char : Char} (member : char ∈ cleaned raw) :
    allowed char = true := by
  obtain ⟨before, _, rfl⟩ := List.mem_map.mp member
  split
  · assumption
  · decide

theorem transliterate_allowed {char : Char} (plain : allowed char = true) :
    transliterate char = [char] := by
  have absent : translit.lookup char = none := by
    have far : ∀ entry ∈ translit, 128 ≤ entry.1.toNat := by decide +kernel
    rw [List.lookup_eq_none_iff]
    intro entry member
    have low := (code_of_allowed plain).1
    have high := far entry member
    simp only [bne_iff_ne]
    rintro rfl
    omega
  simp [transliterate, absent]

theorem cleaned_of_allowed {raw : String} (plain : ∀ char ∈ raw.toList, allowed char = true) :
    cleaned raw = raw.toList := by
  have same : raw.toList.flatMap transliterate = raw.toList := by
    generalize raw.toList = text at plain
    induction text with
    | nil => rfl
    | cons char rest ih =>
        simp only [List.mem_cons, forall_eq_or_imp] at plain
        simp [transliterate_allowed plain.1, ih plain.2]
  rw [cleaned, same]
  exact (List.map_congr_left fun char member => if_pos (plain char member)).trans (List.map_id _)

theorem normalize_eq {raw : String} (filled : raw ≠ "") :
    normalizeUsername (some raw) = String.ofList
      (Texts.tidy trim.contains Message.isSpace ' ' baseMaxLength (cleaned raw)) := if_neg filled

theorem normal_empty : Normal "" := by
  refine ⟨by simp, ⟨by simp, by simp⟩, by simp [Texts.Spaced], by simp⟩

theorem normal_normalize (raw : Option String) : Normal (normalizeUsername raw) := by
  cases raw with
  | none => exact normal_empty
  | some raw =>
      by_cases empty : raw = ""
      · rw [normalizeUsername, if_pos empty]
        exact normal_empty
      · rw [normalize_eq empty]
        constructor
        · intro char member
          rw [String.toList_ofList] at member
          rcases Texts.mem_squeeze (Texts.tidy_within.subset member) with rfl | ⟨inside, _⟩
          · decide
          · exact cleaned_allowed inside
        · rw [String.toList_ofList]
          exact Texts.tidy_tidy

theorem normalize_of_normal {username : String} (normal : Normal username) :
    normalizeUsername (some username) = username := by
  by_cases empty : username = ""
  · rw [normalizeUsername, if_pos empty, empty]
  · have spaces : ∀ char ∈ username.toList, Message.isSpace char = true → char = ' ' :=
      fun char member => (code_of_allowed (normal.plain char member)).2
    rw [normalize_eq empty, cleaned_of_allowed normal.plain,
      Texts.tidy_of_tidy normal.tidy spaces, String.ofList_toList]

example : normalizeUsername (some "  Щука -- И.О. ") = "Schuka -- I.O" := by decide +kernel

end Normal

section Names

structure Base (base : String) : Prop where
  plain : ∀ char ∈ base.toList, allowed char = true
  filled : 0 < base.length
  short : base.length ≤ baseMaxLength

theorem base_of_normal {username : String} (normal : Normal username) (filled : username ≠ "") :
    Base username := by
  refine ⟨normal.plain, ?_, normal.tidy.short⟩
  rw [Nat.pos_iff_ne_zero]
  simpa using filled

theorem base_baseOf (preferred : Option String) (email : String) : Base (baseOf preferred email) := by
  simp only [baseOf]
  split
  · rename_i named
    exact base_of_normal (normal_normalize preferred) named
  · split
    · rename_i mailed
      exact base_of_normal (normal_normalize _) mailed
    · have letters : fallbackBase.toList.all allowed = true := by decide
      refine ⟨List.all_eq_true.mp letters, ?_, ?_⟩
      all_goals decide

theorem accepts_iff {username : String} : UserCreateRequest.acceptsUsername username = true ↔
    (minLength ≤ username.length ∧ username.length ≤ maxLength) ∧
      ∀ char ∈ username.toList, allowed char = true := by
  simp [UserCreateRequest.acceptsUsername, minLength, maxLength, allowed, trim]

theorem hexDigits_allowed {char : Char} {width value : Nat}
    (member : char ∈ Python.hexDigits width value) : allowed char = true := by
  have digits : ∀ digit : Fin 16, allowed (Python.hexDigit digit) = true := by decide
  obtain ⟨digit, small, rfl⟩ := Python.mem_hexDigits member
  exact digits ⟨digit, small⟩

variable {base username : String}

theorem accepts_suffixed (fits : Base base) (width value : Nat) (wide : 6 ≤ width)
    (same : username.toList =
      (base.toList ++ '-' :: Python.hexDigits width value).take maxLength) :
    UserCreateRequest.acceptsUsername username = true ∧ '-' ∈ username.toList := by
  have lengths := congrArg List.length same
  have filled := fits.filled
  have short := fits.short
  simp only [String.length_toList, List.length_take, List.length_append, List.length_cons,
    Python.length_hexDigits, maxLength, baseMaxLength, suffixLength] at lengths short
  constructor
  · rw [accepts_iff]
    refine ⟨by simp only [minLength, maxLength]; omega, fun char member => ?_⟩
    rw [same] at member
    rcases List.mem_append.mp (List.mem_of_mem_take member) with inside | later
    · exact fits.plain char inside
    · rcases List.mem_cons.mp later with rfl | digit
      · decide
      · exact hexDigits_allowed digit
  · obtain ⟨room, left⟩ : ∃ room, maxLength - base.toList.length = room + 1 := by
      refine ⟨maxLength - base.toList.length - 1, ?_⟩
      simp only [maxLength, String.length_toList]
      omega
    rw [same, List.take_append, left, List.take_succ_cons]
    simp

theorem accepts_candidate (fits : Base base) (token : Nat) :
    UserCreateRequest.acceptsUsername (candidate base token) = true ∧
      '-' ∈ (candidate base token).toList := by
  refine accepts_suffixed fits 6 token (Nat.le_refl 6) ?_
  have short := fits.short
  rw [List.take_of_length_le]
  · simp [candidate]
  · simp only [List.length_append, String.length_toList, List.length_cons, Python.length_hexDigits,
      maxLength, baseMaxLength, suffixLength] at short ⊢
    omega

theorem accepts_lastResort (fits : Base base) (uuid : Nat) :
    UserCreateRequest.acceptsUsername (lastResort base uuid) = true ∧
      '-' ∈ (lastResort base uuid).toList :=
  accepts_suffixed fits 32 uuid (by omega) (by simp [lastResort])

theorem accepts_base (fits : Base base) (long : minLength ≤ base.length) :
    UserCreateRequest.acceptsUsername base = true := by
  have short := fits.short
  rw [accepts_iff]
  refine ⟨⟨long, ?_⟩, fits.plain⟩
  simp only [maxLength, baseMaxLength, suffixLength] at short ⊢
  omega

/-- The services, with `str.strip` as it is. -/
def native (services : Services) : Services := { services with strip := Message.strip }

theorem not_reserved (services : Services) (hyphen : '-' ∈ username.toList) :
    isReservedUsername (native services) username = false := by
  have kept : '-' ∈ (Message.strip username).toList := by
    rw [Message.strip, String.toList_ofList]
    exact Texts.mem_strip hyphen (by decide)
  have lowered : '-' ∈ (Message.strip username).toLower.toList := by
    have letters : (Message.strip username).toLower.toList =
        (Message.strip username).toList.map Char.toLower := String.toList_map
    rw [letters]
    exact List.mem_map.mpr ⟨'-', kept, by decide⟩
  have none : ∀ name ∈ usernameReserved, '-' ∉ name.toList := by decide +kernel
  rw [isReservedUsername, ← Bool.not_eq_true, List.contains_iff_mem]
  exact fun reserved => none _ reserved lowered

end Names

section Generating

def Found (checks : List (String × World)) (username : String) (taken : Bool) : Prop :=
  ∃ world, (username, world) ∈ checks ∧ world.usernameTaken username none = taken

/-- The checks that were made and how it ended: with a name that a registration accepts and no one
holds, unless all that were tried were held. -/
def Usable (services : Services) (tried : List String)
    (seen : List (String × World) × Except AuthError String) : Prop :=
  ∃ username, seen.2 = .ok username ∧ UserCreateRequest.acceptsUsername username = true ∧
    isReservedUsername services username = false ∧
    (Found seen.1 username false ∨ ∀ name ∈ tried, Found seen.1 name true)

/-- The names with a suffix, in the order in which they are tried. -/
def candidates (base : String) (drawn : Drawn) (numbers : List Nat) : List String :=
  numbers.map fun attempt => candidate base (drawn.token attempt)

theorem Found.later {checks : List (String × World)} {username : String} {taken : Bool}
    (found : Found checks username taken) (check : String × World) :
    Found (check :: checks) username taken := by
  obtain ⟨world, member, answer⟩ := found
  exact ⟨world, List.mem_cons_of_mem _ member, answer⟩

theorem Usable.later {services : Services} {tried : List String}
    {seen : List (String × World) × Except AuthError String} (usable : Usable services tried seen)
    (check : String × World) : Usable services tried (check :: seen.1, seen.2) := by
  obtain ⟨username, ended, accepted, free, found⟩ := usable
  refine ⟨username, ended, accepted, free, ?_⟩
  rcases found with own | held
  · exact .inl (own.later check)
  · exact .inr fun name member => (held name member).later check

variable {services : Services} {Label Answer : Type} {checks : String → Label} {username : String}

theorem isFree_reserved (reserved : isReservedUsername services username = true) :
    isFree services checks username = pure false := by
  simp [isFree, reserved]

theorem isFree_bind (unreserved : isReservedUsername services username = false)
    (next : Bool → Process World Label AuthError Answer) :
    (isFree services checks username >>= next) =
      .observe (checks username) (·.usernameTaken username none) >>= fun taken => next !taken := by
  rw [isFree, unreserved]
  rfl

variable {base : String}

theorem usable_tryCandidates (services : Services) (fits : Base base) (drawn : Drawn)
    (numbers : List Nat) (worlds : Nat → World) :
    Usable (native services) (candidates base drawn numbers)
      ((tryCandidates (native services) id base drawn numbers).visits worlds) := by
  induction numbers generalizing worlds with
  | nil =>
      obtain ⟨accepted, hyphen⟩ := accepts_lastResort fits drawn.uuid
      exact ⟨_, rfl, accepted, not_reserved services hyphen, .inr (by simp [candidates])⟩
  | cons attempt rest ih =>
      obtain ⟨accepted, hyphen⟩ := accepts_candidate fits (drawn.token attempt)
      have unreserved := not_reserved services hyphen
      rw [tryCandidates, isFree_bind unreserved, Process.visits_observe_bind]
      cases taken : (worlds 0).usernameTaken (candidate base (drawn.token attempt)) none with
      | false => exact ⟨_, rfl, accepted, unreserved, .inl ⟨worlds 0, by simp, taken⟩⟩
      | true =>
          obtain ⟨username, ended, fine, free, found⟩ :=
            (ih fun count => worlds (count + 1)).later
              (candidate base (drawn.token attempt), worlds 0)
          refine ⟨username, ended, fine, free, ?_⟩
          rcases found with own | held
          · exact .inl own
          · right
            intro name member
            rcases List.mem_cons.mp member with rfl | later
            · exact ⟨worlds 0, by simp, taken⟩
            · exact held name later

theorem usable_generate (services : Services) (preferred : Option String) (email : String)
    (drawn : Drawn) (worlds : Nat → World) :
    Usable (native services) (candidates (baseOf preferred email) drawn (List.range attempts))
      ((generate (native services) id preferred email drawn).visits worlds) := by
  have fits := base_baseOf preferred email
  have tries := usable_tryCandidates services fits drawn (List.range attempts)
  simp only [generate]
  split
  · rename_i long
    cases reserved : isReservedUsername (native services) (baseOf preferred email) with
    | true =>
        rw [isFree_reserved reserved, Process.pure_bind_process]
        simp only [Bool.false_eq_true, if_false]
        exact tries worlds
    | false =>
        rw [isFree_bind reserved, Process.visits_observe_bind]
        cases taken : (worlds 0).usernameTaken (baseOf preferred email) none with
        | false =>
            exact ⟨_, rfl, accepts_base fits long, reserved, .inl ⟨worlds 0, by simp, taken⟩⟩
        | true => exact (tries fun count => worlds (count + 1)).later _
  · exact tries worlds

/-- In whichever worlds the checks are made, `generate` answers with a name that can be used; and
`normalize_username` leaves what it has made as it is. -/
theorem generate_usable (services : Services) (preferred : Option String) (email : String)
    (drawn : Drawn) (worlds : Nat → World) :
    Usable (native services) (candidates (baseOf preferred email) drawn (List.range attempts))
        ((generate (native services) id preferred email drawn).visits worlds) ∧
      ∀ raw, Normal (normalizeUsername raw) ∧
        normalizeUsername (some (normalizeUsername raw)) = normalizeUsername raw := by
  refine ⟨usable_generate services preferred email drawn worlds, fun raw => ?_⟩
  exact ⟨normal_normalize raw, normalize_of_normal (normal_normalize raw)⟩

end Generating

end UsernameGenerator

end Messanger.Auth
