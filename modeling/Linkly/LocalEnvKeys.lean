import Linkly.LocalEnvRerun

/-!
What the services read before and after the script has run: the keys of the stored messages and the
secret of the tokens. How a file is read is a parameter.
-/
namespace LocalEnvKeys
open JsText ByteText Utf8Text JsonText SettingText ChatEncryption TextSearch InitLocalEnv
  LocalEnvRerun
open ChatService (EncryptedPayload)

section Reading

/-- The last assignment of a name counts. -/
def assigned (assignments : List Assignment) (name : JsString) : Option JsString :=
  assignments.reverse.lookup name

theorem assigned_append (first more : List Assignment) (name : JsString) :
    assigned (first ++ more) name = (assigned more name).or (assigned first name) := by
  rw [assigned, List.reverse_append, List.lookup_append]
  rfl

theorem assigned_none {assignments : List Assignment} {name : JsString}
    (absent : ∀ a ∈ assignments, a.1 ≠ name) : assigned assignments name = none := by
  rw [assigned, List.lookup_eq_none_iff]
  intro a mem
  simpa using (absent a (List.mem_reverse.mp mem)).symm

def quotationMarks : JsString := [34, 39, 96]

/-- A comment, or a line without escapes whose quotation marks come in pairs and that does not end
    in a colon. -/
def Closed (text : JsString) : Prop :=
  [unit '#'] <+: trim text ∨ 92 ∉ text ∧ ¬ [unit ':'] <:+ trim text ∧
    quotationMarks.all fun mark => text.count mark % 2 = 0

/-- What follows begins a line, and no value goes on in it. -/
def Opens (front : JsString) : Prop :=
  (front = [] ∨ newline <:+ front) ∧ ∀ text ∈ front.splitOnP isLineTerminator, Closed text

def OneLine (text : JsString) : Prop := ∀ u ∈ text, isLineTerminator u = false

def EndsLine (rest : JsString) : Prop := rest.head?.all fun u => u = 10 || u = 13

instance (text : JsString) : Decidable (Closed text) :=
  inferInstanceAs (Decidable ([unit '#'] <+: trim text ∨ 92 ∉ text ∧
    ¬ [unit ':'] <:+ trim text ∧ quotationMarks.all fun mark => text.count mark % 2 = 0))

instance (front : JsString) : Decidable (Opens front) :=
  inferInstanceAs (Decidable ((front = [] ∨ newline <:+ front) ∧
    ∀ text ∈ front.splitOnP isLineTerminator, Closed text))

instance (rest : JsString) : Decidable (EndsLine rest) :=
  inferInstanceAs (Decidable (rest.head?.all fun u => u = 10 || u = 13))

/-- A value that begins with these units is no quotation and no comment. -/
def Begins (name shown text : JsString) : Prop :=
  PlainLine (name, shown) ∧ shown ≠ [] ∧ assigning name ++ shown <+: text

/-- A line from which nothing goes on in the next one. -/
def StandsAlone (text : JsString) : Prop :=
  OneLine text ∧ ([unit '#'] <+: text ∨ ∃ name shown, Begins name shown text)

/-- The rules of dotenv that the script relies on: blanks around a file that ends in a newline do
    not matter, plain lines behind an empty line are assignments of their own, a newline at the end
    matters to a name with a colon only, a line that stands alone is read apart from what is before
    and behind it, a comment is no assignment, and a plain beginning of a value is kept. -/
structure Dotenv (read : JsString → JsString → Option JsString) : Prop where
  surrounding : ∀ file other name, trim file = trim other →
    read (file ++ newline) name = read (other ++ newline) name
  appended : ∀ base added name, (∀ a ∈ added, PlainLine a) →
    read (withLines base added) name = (assigned added name).or (read (base ++ newline) name)
  ended : ∀ file name, ¬ (name ++ [unit ':']) <:+ trim file →
    read (file ++ newline) name = read file name
  apart : ∀ front text rest name, Opens front → StandsAlone text → EndsLine rest →
    read (front ++ text ++ rest) name = (read rest name).or ((read text name).or (read front name))
  comment : ∀ inside name, OneLine inside → read (unit '#' :: inside) name = none
  begun : ∀ name shown text, Begins name shown text → OneLine text →
    ∃ value, shown <+: value ∧ ∀ other, read text other = if other = name then some value else none

def variableName : Setting → JsString
  | .chatEncryptionKeyVersion => js "CHAT_ENCRYPTION_KEY_VERSION"
  | .chatEncryptionKeys => js "CHAT_ENCRYPTION_KEYS"
  | .chatEncryptionKey => js "CHAT_ENCRYPTION_KEY"

/-- A process with the file and nothing else. -/
def environment (read : JsString → JsString → Option JsString) (file : JsString) : Environment where
  config name := read file (variableName name)
  process _ := none

/-- The secret of the file is one, and no placeholder. -/
def InForce (read : JsString → JsString → Option JsString) (file secret : JsString) : Prop :=
  read file secretKey = some secret ∧ secret ≠ [] ∧ ¬ js "CHANGE_ME" <+: secret

end Reading

section Services

/-- Whatever the cipher, the new service decrypts what the old one decrypts or encrypts. -/
structure Reads (old new : ChatEncryptionService) : Prop where
  decrypted : ∀ gcm payload json, old.decrypt gcm payload = some json →
    new.decrypt gcm payload = some json
  encrypted : ∀ gcm : AesGcm, gcm.Inverts → ∀ iv plaintext, iv.length = 12 →
    new.decrypt gcm (old.encrypt gcm iv plaintext) =
      some (.object (plaintext.map fun m => (m.1, scalar m.2)))

/-- The new service has every key of the old one under its version. -/
def Holds (old new : ChatEncryptionService) : Prop :=
  ∀ version key, old.keys.lookup version = some key → new.keys.lookup version = some key

/-- The tag is the key. -/
def keyTagGcm : AesGcm where
  createCipheriv key _ plaintext := (plaintext, key.bytes)
  createDecipheriv key _ tag ciphertext := if tag = key.bytes then some ciphertext else none

def keyTagPayload (version : Int) (key : Key) : EncryptedPayload where
  ciphertext := toBase64 (toUtf8 (stringify []))
  iv := []
  tag := toBase64 key.bytes
  keyVersion := version

theorem key_tag_decrypt (service : ChatEncryptionService) (version : Int) (key : Key) :
    (service.decrypt keyTagGcm (keyTagPayload version key)).isSome = true ↔
      service.keys.lookup version = some key := by
  have opened : parse (ofUtf8 (toUtf8 (stringify []))) = some (.object []) := by
    rw [of_to_utf8 (stringify_well_formed []), parse_stringify]
    rfl
  cases found : service.keys.lookup version with
  | none => simp [ChatEncryptionService.decrypt, keyTagPayload, found]
  | some other =>
    by_cases same : key.bytes = other.bytes
    · have same_key : other = key := by
        cases other
        cases key
        simp_all
      simp [ChatEncryptionService.decrypt, keyTagPayload, found, keyTagGcm, of_to_base64, same_key,
        opened]
    · have apart : other ≠ key := by
        rintro rfl
        exact same rfl
      simp [ChatEncryptionService.decrypt, keyTagPayload, found, keyTagGcm, of_to_base64, same,
        apart]

theorem holds_of_reads {old new : ChatEncryptionService} (reads : Reads old new) :
    Holds old new := by
  intro version key held
  rw [← key_tag_decrypt] at held ⊢
  obtain ⟨json, decrypted⟩ := Option.isSome_iff_exists.mp held
  rw [reads.decrypted keyTagGcm _ json decrypted]
  rfl

theorem active_key_held (service : ChatEncryptionService) :
    service.keys.lookup service.activeVersion = some service.activeKey :=
  (Option.some_get service.active).symm

theorem reads_of_holds {old new : ChatEncryptionService} (holds : Holds old new) :
    Reads old new where
  decrypted gcm payload json decrypted := by
    cases held : old.keys.lookup payload.keyVersion with
    | none => simp [ChatEncryptionService.decrypt, held] at decrypted
    | some key =>
      rw [← decrypted]
      simp [ChatEncryptionService.decrypt, held, holds _ _ held]
  encrypted _ inverts _ plaintext random :=
    decrypt_encrypt inverts random (holds _ _ (active_key_held old)) plaintext

/-- The lines that the script appends give a service with the drawn key alone. -/
theorem start_drawn {env : Environment} {key : Key}
    (keys : env.getEnv .chatEncryptionKeys = some (js "1:" ++ toBase64 key.bytes))
    (version : env.getEnv .chatEncryptionKeyVersion = some (js "1")) :
    ∃ service, start env = .ok service ∧ service.keys = [(1, key)] := by
  have dark_front : ∀ u ∈ js "1:", isBlank u = false := by simp [js, isBlank, unit]
  have dark : ∀ u ∈ js "1:" ++ toBase64 key.bytes, isBlank u = false := by
    intro u mem
    rcases List.mem_append.mp mem with front | code
    · exact dark_front u front
    · exact to_base64_units (Q := fun u => isBlank u = false) (by decide) (by decide) _ u code
  have no_comma : unit ',' ∉ js "1:" ++ toBase64 key.bytes := by
    intro mem
    rcases List.mem_append.mp mem with front | code
    · revert front
      decide
    · exact to_base64_units (Q := fun u => u ≠ unit ',') (by decide) (by decide) _ _ code rfl
  have listed : Lists (js "1:" ++ toBase64 key.bytes) 1 key :=
    ⟨js "1", [], toBase64 key.bytes, [], by simp; rfl, by decide, by decide, by simp,
      Or.inr (to_base64_of key.bytes)⟩
  obtain ⟨keyRaw, read, decoded⟩ := read_listed listed
  rw [trim_dark dark] at read
  have read_keys : readKeys env = .ok [(1, key)] := by
    have nonempty : js "1:" ++ toBase64 key.bytes ≠ [] := by simp [js]
    simp only [readKeys, trimmedSetting, keys, Option.map_some, Option.getD_some, trim_dark dark,
      nonempty, ne_eq, not_false_eq_true, ↓reduceIte, parts_single no_comma, setEntries, read,
      decoded]
  have active : activeVersionOf env = 1 := by
    rw [activeVersionOf, version]
    decide
  have held : (List.lookup (activeVersionOf env) [((1 : Int), key)]).isSome = true := by
    rw [active]
    rfl
  refine ⟨⟨[(1, key)], activeVersionOf env, held⟩, ?_, rfl⟩
  rw [start, read_keys]
  simp [held]

end Services

section Update

def readNames : List JsString := secretKey :: keyVariables

/-- After the script the services still read what they have read, and another run does nothing. -/
structure Keeps (read : JsString → JsString → Option JsString) (examplePath : Bool)
    (file : JsString) : Prop where
  messages : ∀ draw old, start (environment read file) = .ok old →
    ∃ new, start (environment read (update examplePath draw file)) = .ok new ∧ Reads old new
  secret : ∀ draw secret, InForce read file secret →
    InForce read (update examplePath draw file) secret
  settled : ∀ draw again, update examplePath again (update examplePath draw file) =
    update examplePath draw file

/-- The name of the key list and of the secret stand in the file, right before an equals sign, if
    they are read from it. -/
structure Named (read : JsString → JsString → Option JsString) (file : JsString) : Prop where
  keysNamed : hasKey (js "CHAT_ENCRYPTION_KEYS") (trim file) = true ∨
    ∀ old, start (environment read file) ≠ .ok old
  secretNamed : hasKey secretKey (trim file) = true ∨ ∀ secret, ¬ InForce read file secret

/-- An assignment that begins its line, with a placeholder as its value, or one in a comment. -/
def Placed (front back : JsString) : Prop :=
  EndsLine (nextLines back) ∧ (Opens front ∧ js "CHANGE_ME" <+: back ∨
    ∃ above inside, front = above ++ unit '#' :: inside ∧ Opens above ∧ OneLine inside)

/-- A newline at the end of the file makes no difference, and the first assignment of a secret is
    nothing that counts if there is a placeholder. -/
structure Safe (read : JsString → JsString → Option JsString) (file : JsString) : Prop
    extends Named read file where
  ended : newline <:+ file ∨ ∀ name ∈ readNames, ¬ (name ++ [unit ':']) <:+ trim file
  settling : Settling (trim file)
  placed : contains placeholder (trim file) = true → ∀ front back,
    cut (assigning secretKey) (trim file) = some (front, back) → Placed front back

variable {read : JsString → JsString → Option JsString} (dotenv : Dotenv read)

theorem with_lines_closed (base : JsString) (added : List Assignment) :
    ∃ text, withLines base added = text ++ newline := by
  rcases List.eq_nil_or_concat added with rfl | ⟨front, a, rfl⟩
  · exact ⟨base ++ newline, by simp [withLines, lines]⟩
  · exact ⟨withLines base front ++ (assigning a.1 ++ a.2), by simp [withLines, lines, line]⟩

include dotenv

theorem read_update (examplePath : Bool) (draw : Draw) {file : JsString}
    (nonblank : trim file ≠ []) (name : JsString) :
    read (update examplePath draw file) name = (assigned (added examplePath draw (trim file))
      name).or (read (renewed draw (trim file) ++ newline) name) := by
  obtain ⟨text, closed⟩ := with_lines_closed (renewed draw (trim file))
    (added examplePath draw (trim file))
  have plain : ∀ a ∈ added examplePath draw (trim file), PlainLine a :=
    fun _ mem => (added_plain mem).1
  have same_trim : trim (trim (final examplePath draw (trim file))) = trim text := by
    rw [trim_trim, final, closed, trim_blank_back newline_blank]
  rw [update_eq examplePath draw nonblank, ← final, dotenv.surrounding _ _ name same_trim, ← closed]
  exact dotenv.appended _ _ name plain

theorem read_trimmed (file name : JsString) :
    read (trim file ++ newline) name = read (file ++ newline) name :=
  dotenv.surrounding _ _ name (trim_trim file)

end Update

section Lookups
variable (examplePath : Bool) (draw : Draw) {text : JsString}

theorem others_assigned {examplePath : Bool} {assignments : List Assignment}
    (from_others : ∀ a ∈ assignments, ∃ entry ∈ others examplePath, a ∈ entry.2)
    {name : JsString} (mem : name ∈ readNames) : assigned assignments name = none := by
  apply assigned_none
  intro a in_assignments same
  obtain ⟨entry, in_others, in_entry⟩ := from_others a in_assignments
  exact (others_plain in_others in_entry).2.1 (same ▸ mem)

/-- Only the lines of the keys and of the secret count for what is read. -/
theorem assigned_added {name : JsString} (mem : name ∈ readNames) :
    assigned (added examplePath draw text) name =
      (assigned (secretLine draw text) name).or (assigned (keysLines draw text) name) := by
  obtain ⟨front, back, shape, from_others⟩ := added_shape examplePath draw text
  have none_front := others_assigned
    (fun a in_front => from_others a (List.mem_append_left back in_front)) mem
  have none_back := others_assigned
    (fun a in_back => from_others a (List.mem_append_right front in_back)) mem
  rw [shape, assigned_append, assigned_append, assigned_append, none_front, none_back,
    Option.none_or, Option.or_none]

theorem secret_assigned : assigned (added examplePath draw text) secretKey =
    if hasKey secretKey text then none else some (toBase64 draw.secret) := by
  have no_keys : assigned (keysLines draw text) secretKey = none := by
    apply assigned_none
    intro a mem same
    have key_name := (keys_lines_plain mem).2.1
    rw [same] at key_name
    exact absurd key_name (by decide)
  rw [assigned_added examplePath draw (by decide), no_keys, Option.or_none, secretLine]
  split_ifs
  · rfl
  · simp [assigned]

theorem key_assigned {name : JsString} (mem : name ∈ keyVariables) :
    assigned (added examplePath draw text) name = assigned (keysLines draw text) name := by
  have no_secret : assigned (secretLine draw text) name = none := by
    apply assigned_none
    intro a in_line same
    rw [(secret_line_plain in_line).2.1] at same
    rw [← same] at mem
    exact absurd mem (by decide)
  rw [assigned_added examplePath draw (List.mem_cons_of_mem secretKey mem), no_secret,
    Option.none_or]

end Lookups

section FirstLine

def firstLine (back : JsString) : JsString := back.takeWhile fun u => !isLineTerminator u

theorem first_line_one_line (back : JsString) : OneLine (firstLine back) := by
  intro u mem
  simpa using List.mem_takeWhile_imp mem

theorem prefix_first_line {shown back : JsString} (one_line : OneLine shown)
    (first : shown <+: back) : shown <+: firstLine back := by
  obtain ⟨more, rfl⟩ := first
  have inside : ∀ u ∈ shown, (!isLineTerminator u) = true :=
    fun u mem => by rw [one_line u mem]; rfl
  exact ⟨more.takeWhile fun u => !isLineTerminator u, (List.takeWhile_append_of_pos inside).symm⟩

theorem ends_line_newline {rest : JsString} (ends : EndsLine rest) :
    EndsLine (rest ++ newline) := by
  cases rest with
  | nil => rfl
  | cons u rest => exact ends

theorem dark_one_line {text : JsString} (dark : ∀ u ∈ text, isBlank u = false) :
    OneLine text := by
  intro u mem
  by_contra stop
  have blank := terminator_blank (Bool.of_not_eq_false stop)
  rw [dark u mem] at blank
  exact Bool.noConfusion blank

theorem one_line_append {front back : JsString} (first : OneLine front) (last : OneLine back) :
    OneLine (front ++ back) := fun u mem => (List.mem_append.mp mem).elim (first u) (last u)

theorem bare_dark {text : JsString} (bare_text : text.all bare = true) :
    (∀ u ∈ text, isBlank u = false) ∧ ∀ u ∈ text, decide (u ≠ unit '#') = true := by
  constructor
  all_goals
    intro u mem
    have shown := List.all_eq_true.mp bare_text u mem
    simp only [bare, Bool.and_eq_true, Bool.not_eq_true', decide_eq_true_eq] at shown
  · exact shown.1.1.1.1
  · exact decide_eq_true shown.1.1.1.2

theorem bare_one_line {text : JsString} (bare_text : text.all bare = true) : OneLine text :=
  dark_one_line (bare_dark bare_text).1

theorem assigning_one_line_of_word {name : JsString} (word : Word name) :
    OneLine (assigning name) := dark_one_line (assigning_dark word)

end FirstLine

section Replacing
variable {read : JsString → JsString → Option JsString} (dotenv : Dotenv read) {file : JsString}

theorem variable_mem (name : Setting) : variableName name ∈ keyVariables := by
  cases name <;> decide

include dotenv

theorem read_ended
    (ended : newline <:+ file ∨ ∀ name ∈ readNames, ¬ (name ++ [unit ':']) <:+ trim file)
    {name : JsString} (mem : name ∈ readNames) :
    read (trim file ++ newline) name = read file name := by
  rw [read_trimmed dotenv]
  rcases ended with ⟨front, rfl⟩ | apart
  · exact dotenv.surrounding _ _ name (trim_blank_back newline_blank front)
  · exact dotenv.ended file name (apart name mem)

/-- A comment is read as any other comment. -/
theorem read_commented {front inside other rest : JsString} (opened : Opens front)
    (inside_line : OneLine inside) (other_line : OneLine other) (ends : EndsLine rest)
    (name : JsString) : read (front ++ unit '#' :: inside ++ rest) name =
      read (front ++ unit '#' :: other ++ rest) name := by
  have alone : ∀ {text}, OneLine text → StandsAlone (unit '#' :: text) := fun one_line =>
    ⟨List.forall_mem_cons.mpr ⟨by decide, one_line⟩, Or.inl ⟨_, rfl⟩⟩
  rw [dotenv.apart front _ rest name opened (alone inside_line) ends,
    dotenv.apart front _ rest name opened (alone other_line) ends,
    dotenv.comment inside name inside_line, dotenv.comment other name other_line]

/-- An assignment that takes the place of another one of the same name changes nothing, or the value
    of that name, which has been the other one's. -/
theorem read_replaced {front text other rest : JsString} {key shown drawn : JsString}
    (opened : Opens front) (begins : Begins key shown text) (one_line : OneLine text)
    (other_begins : Begins key drawn other) (other_line : OneLine other) (ends : EndsLine rest)
    (name : JsString) :
    read (front ++ other ++ rest) name = read (front ++ text ++ rest) name ∨
      name = key ∧ ∃ old, read (front ++ text ++ rest) name = some old ∧ shown <+: old := by
  obtain ⟨old, kept, before⟩ := dotenv.begun key shown text begins one_line
  obtain ⟨new, _, behind⟩ := dotenv.begun key drawn other other_begins other_line
  rw [dotenv.apart front text rest name opened ⟨one_line, Or.inr ⟨key, shown, begins⟩⟩ ends,
    dotenv.apart front other rest name opened
      ⟨other_line, Or.inr ⟨key, drawn, other_begins⟩⟩ ends, before, behind]
  cases read rest name with
  | some later => exact Or.inl rfl
  | none =>
    by_cases own : name = key
    · rw [if_pos own, if_pos own]
      exact Or.inr ⟨own, old, rfl, kept⟩
    · rw [if_neg own, if_neg own]
      exact Or.inl rfl

/-- A placeholder is replaced where its value has been read, or where it does not count. -/
theorem read_placed {front back : JsString} (placed : Placed front back) (draw : Draw)
    (name : JsString) :
    read (front ++ assigning secretKey ++ toBase64 draw.secret ++ nextLines back ++ newline) name =
        read (front ++ assigning secretKey ++ back ++ newline) name ∨
      name = secretKey ∧ ∃ old,
        read (front ++ assigning secretKey ++ back ++ newline) name = some old ∧
          js "CHANGE_ME" <+: old := by
  have whole : firstLine back ++ nextLines back = back := List.takeWhile_append_dropWhile
  have name_line : OneLine (assigning secretKey) := assigning_one_line_of_word (by decide)
  have old_line : OneLine (assigning secretKey ++ firstLine back) :=
    one_line_append name_line (first_line_one_line back)
  have new_line : OneLine (assigning secretKey ++ toBase64 draw.secret) :=
    one_line_append name_line (bare_one_line (secret_plain draw).2.2)
  have ends : EndsLine (nextLines back ++ newline) := ends_line_newline placed.1
  rcases placed.2 with ⟨opened, shown⟩ | ⟨above, inside, rfl, opened, one_line⟩
  · have plain : PlainLine (secretKey, js "CHANGE_ME") := by decide
    have begins : Begins secretKey (js "CHANGE_ME") (assigning secretKey ++ firstLine back) :=
      ⟨plain, by decide, (List.prefix_append_right_inj _).mpr
        (prefix_first_line (bare_one_line plain.2.2) shown)⟩
    have drawn : Begins secretKey (toBase64 draw.secret)
        (assigning secretKey ++ toBase64 draw.secret) :=
      ⟨secret_plain draw, secret_ne_nil draw, List.prefix_refl _⟩
    have replaced := read_replaced dotenv opened begins old_line drawn new_line ends name
    simpa only [List.append_assoc, ← List.append_assoc (firstLine back), whole] using replaced
  · have same := read_commented dotenv opened (one_line_append one_line new_line)
      (one_line_append one_line old_line) ends name
    left
    simpa only [List.append_assoc, List.cons_append, ← List.append_assoc (firstLine back), whole]
      using same

/-- The script changes no value but a placeholder. -/
theorem read_renewed (safe : Safe read file) (draw : Draw) {name : JsString}
    (mem : name ∈ readNames) :
    read (renewed draw (trim file) ++ newline) name = read file name ∨
      name = secretKey ∧ ∃ old, read file name = some old ∧ js "CHANGE_ME" <+: old := by
  rw [← read_ended dotenv safe.ended mem]
  by_cases found : contains placeholder (trim file) = true
  · obtain ⟨front, back, is_cut⟩ := exists_cut found
    have renewal : renews (trim file) = true := by
      rw [renews, (safe.settling found).1, found, Bool.and_self]
    have placed := read_placed dotenv (safe.placed found front back is_cut) draw name
    rwa [← renewed_cut is_cut draw renewal, ← cut_spec is_cut] at placed
  · have same : renewed draw (trim file) = trim file := by simp [renewed, renews, found]
    rw [same]
    exact Or.inl rfl

theorem environment_renewed (safe : Safe read file) (draw : Draw) :
    environment read (renewed draw (trim file) ++ newline) = environment read file := by
  have config : ∀ name, read (renewed draw (trim file) ++ newline) (variableName name) =
      read file (variableName name) := by
    intro name
    have mem := variable_mem name
    have read_name := List.mem_cons_of_mem secretKey mem
    rcases read_renewed dotenv safe draw read_name with same | ⟨is_secret, _⟩
    · exact same
    · rw [is_secret] at mem
      exact absurd mem (by decide)
  simp only [environment, config]

theorem force_renewed (safe : Safe read file) (draw : Draw) {secret : JsString}
    (force : InForce read file secret) :
    read (renewed draw (trim file) ++ newline) secretKey = some secret := by
  rcases read_renewed dotenv safe draw List.mem_cons_self with same | ⟨_, old, was, shown⟩
  · rw [same, force.1]
  · obtain rfl : secret = old := Option.some.inj (force.1.symm.trans was)
    exact absurd shown force.2.2

end Replacing

section Exactness
variable {read : JsString → JsString → Option JsString} (dotenv : Dotenv read) {examplePath : Bool}
  {file : JsString} (nonblank : trim file ≠ [])

include dotenv nonblank

/-- With the name of the key list in the file no key is appended. -/
theorem environment_named (draw : Draw)
    (named : hasKey (js "CHAT_ENCRYPTION_KEYS") (trim file) = true) :
    environment read (update examplePath draw file) =
      environment read (renewed draw (trim file) ++ newline) := by
  have config : ∀ name, read (update examplePath draw file) (variableName name) =
      read (renewed draw (trim file) ++ newline) (variableName name) := by
    intro name
    have nothing : assigned (keysLines draw (trim file)) (variableName name) = none := by
      simp [keysLines, named, assigned]
    rw [read_update dotenv examplePath draw nonblank,
      key_assigned examplePath draw (variable_mem name), nothing, Option.none_or]
  simp only [environment, config]

theorem start_unnamed (examplePath : Bool) (draw : Draw)
    (unnamed : hasKey (js "CHAT_ENCRYPTION_KEYS") (trim file) = false) :
    ∃ new, start (environment read (update examplePath draw file)) = .ok new ∧
      new.keys = [(1, draw.key)] := by
  have shape : keysLines draw (trim file) = (encryptionKeys draw).2 := by simp [keysLines, unnamed]
  have keys_first : (js "CHAT_ENCRYPTION_KEYS" == js "CHAT_ENCRYPTION_KEY_VERSION") = false := by
    decide
  have keys : assigned (encryptionKeys draw).2 (js "CHAT_ENCRYPTION_KEYS") =
      some (js "1:" ++ toBase64 draw.key.bytes) := by
    simp [assigned, encryptionKeys, List.lookup_cons, keys_first]
  have version : assigned (encryptionKeys draw).2 (js "CHAT_ENCRYPTION_KEY_VERSION") =
      some (js "1") := by
    simp [assigned, encryptionKeys]
  apply start_drawn
  · simp only [Environment.getEnv, environment, Option.or_none]
    rw [read_update dotenv examplePath draw nonblank, variableName,
      key_assigned examplePath draw (by decide), shape, keys, Option.some_or]
  · simp only [Environment.getEnv, environment, Option.or_none]
    rw [read_update dotenv examplePath draw nonblank, variableName,
      key_assigned examplePath draw (by decide), shape, version, Option.some_or]

theorem read_secret (draw : Draw) : read (update examplePath draw file) secretKey =
    if hasKey secretKey (trim file) then read (renewed draw (trim file) ++ newline) secretKey
    else some (toBase64 draw.secret) := by
  rw [read_update dotenv examplePath draw nonblank, secret_assigned]
  split_ifs <;> rfl

theorem keeps_of_safe (safe : Safe read file) : Keeps read examplePath file where
  messages draw old started := by
    rcases safe.keysNamed with named | none_starts
    · refine ⟨old, ?_, reads_of_holds fun _ _ held => held⟩
      rw [environment_named dotenv nonblank draw named, environment_renewed dotenv safe, started]
    · exact absurd started (none_starts old)
  secret draw secret force := by
    rcases safe.secretNamed with named | none_there
    · refine ⟨?_, force.2⟩
      rw [read_secret dotenv nonblank, if_pos named, force_renewed dotenv safe draw force]
    · exact absurd force (none_there secret)
  settled := settled_of_settling nonblank safe.settling

section Keeping
variable (keeps : Keeps read examplePath file)
include keeps

theorem keys_named_of_keeps : hasKey (js "CHAT_ENCRYPTION_KEYS") (trim file) = true ∨
    ∀ old, start (environment read file) ≠ .ok old := by
  by_cases named : hasKey (js "CHAT_ENCRYPTION_KEYS") (trim file) = true
  · exact Or.inl named
  · right
    intro old started
    have drawn : ∀ draw : Draw, old.activeKey = draw.key := by
      intro draw
      obtain ⟨new, new_started, reads⟩ := keeps.messages draw old started
      obtain ⟨other, other_started, keys⟩ := start_unnamed dotenv nonblank
        examplePath draw (Bool.of_not_eq_true named)
      obtain rfl : new = other := Except.ok.inj (new_started.symm.trans other_started)
      have held := holds_of_reads reads _ _ (active_key_held old)
      rw [keys, List.lookup_cons, List.lookup_nil] at held
      split at held
      · exact (Option.some.inj held).symm
      · simp at held
    have same := (drawn (sampleDraw 0)).symm.trans (drawn (sampleDraw 1))
    have apart : (sampleDraw 0).key ≠ (sampleDraw 1).key := by decide
    exact apart same

theorem secret_named_of_keeps :
    hasKey secretKey (trim file) = true ∨ ∀ secret, ¬ InForce read file secret := by
  by_cases named : hasKey secretKey (trim file) = true
  · exact Or.inl named
  · right
    intro secret force
    have drawn : ∀ draw : Draw, some (toBase64 draw.secret) = some secret := by
      intro draw
      have kept := (keeps.secret draw secret force).1
      rwa [read_secret dotenv nonblank, if_neg named] at kept
    have same := to_base64_injective
      (Option.some.inj ((drawn (sampleDraw 0)).trans (drawn (sampleDraw 1)).symm))
    simp [sampleDraw] at same

theorem named_of_keeps : Named read file where
  keysNamed := keys_named_of_keeps dotenv nonblank keeps
  secretNamed := secret_named_of_keeps dotenv nonblank keeps

end Keeping

/-- The script keeps the keys and the secret of a safe file and is done after one run. In a file
    that it treats so the names stand and the placeholder is the last. -/
theorem safe_update_keeps : (Safe read file → Keeps read examplePath file) ∧
    (Keeps read examplePath file → Named read file ∧ Settling (trim file)) :=
  ⟨keeps_of_safe dotenv nonblank, fun keeps =>
    ⟨named_of_keeps dotenv nonblank keeps, settling_of_settled nonblank keeps.settled⟩⟩

end Exactness

section LineReading

/-- A line with an equals sign, without its blanks and its comment. -/
def readLine (text : JsString) : Option Assignment :=
  let body := trim text
  if unit '=' ∈ body ∧ ¬ [unit '#'] <+: body then
    some (body.takeWhile (· ≠ unit '='),
      trim ((body.dropWhile (· ≠ unit '=')).tail.takeWhile (· ≠ unit '#')))
  else none

def assignments (file : JsString) : List Assignment :=
  (file.splitOnP isLineTerminator).filterMap readLine

/-- A reading that does without quotation marks and continued lines. -/
def lineRead (file name : JsString) : Option JsString := assigned (assignments file) name

theorem read_line_blank_front {u : UInt16} (blank : isBlank u = true) (text : JsString) :
    readLine (u :: text) = readLine text := by
  have blanks : ∀ v ∈ [u], isBlank v = true := by simpa using blank
  have same : trim ([u] ++ text) = trim text := trim_blank_front blanks text
  rw [← List.singleton_append, readLine, same, readLine]

theorem read_line_blank_back {u : UInt16} (blank : isBlank u = true) (text : JsString) :
    readLine (text ++ [u]) = readLine text := by
  have same : trim (text ++ [u]) = trim text := trim_blank_back (by simpa using blank) text
  rw [readLine, same, readLine]

theorem assignments_nil : assignments [] = [] := rfl

theorem assignments_split {sep : UInt16} (stop : isLineTerminator sep = true)
    (text more : JsString) :
    assignments (text ++ sep :: more) = assignments text ++ assignments more := by
  rw [assignments, List.splitOnP_append_cons _ _ stop, List.filterMap_append]
  rfl

theorem assignments_blank_front {u : UInt16} (blank : isBlank u = true) (text : JsString) :
    assignments (u :: text) = assignments text := by
  by_cases stop : isLineTerminator u = true
  · exact assignments_split stop [] text
  · rw [assignments, List.splitOnP_cons_eq_if_modifyHead, if_neg stop, assignments]
    cases lines : text.splitOnP isLineTerminator with
    | nil => exact absurd lines (List.splitOnP_ne_nil _ _)
    | cons first rest =>
      simp only [List.modifyHead_cons, List.filterMap_cons, read_line_blank_front blank]

/-- Another unit goes to the last line. -/
theorem split_snoc {u : UInt16} (inside : isLineTerminator u = false) (text : JsString) :
    ∃ front last, text.splitOnP isLineTerminator = front ++ [last] ∧
      (text ++ [u]).splitOnP isLineTerminator = front ++ [last ++ [u]] := by
  induction text with
  | nil => exact ⟨[], [], rfl, List.splitOnP_eq_singleton (by simpa using inside)⟩
  | cons v text ih =>
    obtain ⟨front, last, before, after⟩ := ih
    rw [List.cons_append, List.splitOnP_cons_eq_if_modifyHead,
      List.splitOnP_cons_eq_if_modifyHead, before, after]
    split_ifs
    · exact ⟨[] :: front, last, rfl, rfl⟩
    · cases front with
      | nil => exact ⟨[], v :: last, rfl, rfl⟩
      | cons first front => exact ⟨(v :: first) :: front, last, rfl, rfl⟩

theorem assignments_blank_back {u : UInt16} (blank : isBlank u = true) (text : JsString) :
    assignments (text ++ [u]) = assignments text := by
  by_cases stop : isLineTerminator u = true
  · rw [assignments_split stop, assignments_nil, List.append_nil]
  · obtain ⟨front, last, before, after⟩ := split_snoc (Bool.of_not_eq_true stop) text
    rw [assignments, after, assignments, before, List.filterMap_append, List.filterMap_append]
    simp only [List.filterMap_cons, read_line_blank_back blank]

theorem assignments_trim (text : JsString) : assignments (trim text) = assignments text := by
  obtain ⟨front, back, whole, blank_front, blank_back⟩ := trim_decomposition text
  have without_front : ∀ (blanks middle : JsString), (∀ u ∈ blanks, isBlank u = true) →
      assignments (blanks ++ middle) = assignments middle := by
    intro blanks middle blank
    induction blanks with
    | nil => rfl
    | cons u blanks ih =>
      rw [List.cons_append, assignments_blank_front (blank u List.mem_cons_self),
        ih fun v mem => blank v (List.mem_cons_of_mem u mem)]
  have without_back : ∀ (blanks middle : JsString), (∀ u ∈ blanks, isBlank u = true) →
      assignments (middle ++ blanks) = assignments middle := by
    intro blanks middle blank
    induction blanks generalizing middle with
    | nil => rw [List.append_nil]
    | cons u blanks ih =>
      rw [← List.singleton_append, ← List.append_assoc,
        ih _ fun v mem => blank v (List.mem_cons_of_mem u mem),
        assignments_blank_back (blank u List.mem_cons_self)]
  conv_rhs => rw [whole]
  rw [without_back _ _ blank_back, without_front _ _ blank_front]

theorem assignments_newline (text : JsString) :
    assignments (text ++ newline) = assignments text := by
  rw [newline, assignments_split (by decide), assignments_nil, List.append_nil]

theorem word_dark {name : JsString} (word : Word name) : ∀ u ∈ name, isBlank u = false :=
  fun u mem => (word_range (word_unit word u mem)).1

/-- A line that begins with a name has that name, and a value without blanks and comment. -/
theorem read_assigning {name : JsString} (word : Word name) (named : name ≠ [])
    (value : JsString) : readLine (assigning name ++ value) =
      some (name, trim ((trimEnd value).takeWhile (· ≠ unit '#'))) := by
  have start : trimStart name = name := by
    simpa using trim_start_dark (word_dark word) named []
  have body : trim (assigning name ++ value) = name ++ unit '=' :: trimEnd value := by
    have parts := trim_append (by decide : isBlank (unit '=') = false) name value
    rw [start] at parts
    simpa [assigning] using parts
  have name_units : ∀ u ∈ name, decide (u ≠ unit '=') = true :=
    fun u mem => decide_eq_true (word_range (word_unit word u mem)).2
  have front : (name ++ unit '=' :: trimEnd value).takeWhile (· ≠ unit '=') = name := by
    rw [List.takeWhile_append_of_pos name_units]
    simp
  have back : (name ++ unit '=' :: trimEnd value).dropWhile (· ≠ unit '=') =
      unit '=' :: trimEnd value := by
    rw [List.dropWhile_append_of_pos name_units]
    simp
  have no_comment : ¬ [unit '#'] <+: name ++ unit '=' :: trimEnd value := by
    cases name with
    | nil => exact absurd rfl named
    | cons u name =>
      intro sign
      obtain ⟨rfl, _⟩ := List.cons_prefix_cons.mp sign
      exact absurd (word_unit word _ List.mem_cons_self) (by decide)
  rw [readLine, body, if_pos ⟨by simp, no_comment⟩, front, back, List.tail_cons]

theorem read_plain_line {a : Assignment} (plain : PlainLine a) :
    readLine (assigning a.1 ++ a.2) = some a := by
  obtain ⟨word, named, value⟩ := plain
  obtain ⟨dark, no_sign⟩ := bare_dark value
  have whole : trimEnd a.2 = a.2 := by
    rw [trimEnd, List.rdropWhile_eq_self_iff]
    intro something
    simp [dark _ (List.getLast_mem something)]
  rw [read_assigning word named, whole, List.takeWhile_eq_self_iff.mpr no_sign, trim_dark dark]

/-- A value keeps what it begins with, up to a blank or a comment. -/
theorem read_begun_line {name shown text : JsString} (begins : Begins name shown text) :
    ∃ value, readLine text = some (name, value) ∧ shown <+: value := by
  obtain ⟨⟨word, named, bare_text⟩, something, more, rfl⟩ := begins
  obtain ⟨dark, no_sign⟩ := bare_dark bare_text
  rw [List.append_assoc]
  refine ⟨_, read_assigning word named _, ?_⟩
  rw [trim_end_dark dark something, List.takeWhile_append_of_pos no_sign, trim_eq,
    trim_start_dark dark something, trim_end_dark dark something]
  exact List.prefix_append _ _

theorem plain_one_line {a : Assignment} (plain : PlainLine a) : OneLine (assigning a.1 ++ a.2) :=
  one_line_append (assigning_one_line_of_word plain.1) (bare_one_line plain.2.2)

theorem assignments_lines {added : List Assignment} (plain : ∀ a ∈ added, PlainLine a) :
    assignments (lines added) = added := by
  induction added with
  | nil => rfl
  | cons a added ih =>
    have plain_a := plain a List.mem_cons_self
    have shape : lines (a :: added) = assigning a.1 ++ a.2 ++ 10 :: lines added := by
      simp [lines, line, newline]
    have one_line := plain_one_line plain_a
    rw [shape, assignments_split (by decide), ih fun b mem => plain b (List.mem_cons_of_mem a mem),
      assignments, List.splitOnP_eq_singleton one_line]
    simp [read_plain_line plain_a]

theorem line_read_alone {text : JsString} (one_line : OneLine text) (name : JsString) :
    lineRead text name = assigned (readLine text).toList name := by
  rw [lineRead, assignments, List.splitOnP_eq_singleton one_line, List.filterMap_cons]
  cases readLine text <;> rfl

/-- A line between others is read by itself. -/
theorem line_read_between {front rest : JsString} (begins : front = [] ∨ newline <:+ front)
    (ends : EndsLine rest) (text name : JsString) : lineRead (front ++ text ++ rest) name =
      (lineRead rest name).or ((lineRead text name).or (lineRead front name)) := by
  have before : assignments (front ++ (text ++ rest)) =
      assignments front ++ assignments (text ++ rest) := by
    rcases begins with rfl | ⟨above, rfl⟩
    · rfl
    · rw [assignments_newline, newline, List.append_assoc, List.singleton_append,
        assignments_split (by decide)]
  have behind : assignments (text ++ rest) = assignments text ++ assignments rest := by
    cases rest with
    | nil => rw [List.append_nil, assignments_nil, List.append_nil]
    | cons u rest =>
      have stop : isLineTerminator u = true := by
        have first : u = 10 ∨ u = 13 := by simpa [EndsLine] using ends
        rcases first with rfl | rfl <;> decide
      rw [assignments_split stop, assignments_blank_front (terminator_blank stop)]
  rw [lineRead, List.append_assoc, before, behind, assigned_append, assigned_append,
    Option.or_assoc]
  rfl

theorem read_comment (text : JsString) : readLine (unit '#' :: text) = none := by
  have body : trim (unit '#' :: text) = unit '#' :: trimEnd text := trim_append (by decide) [] text
  rw [readLine, body, if_neg]
  simp

theorem line_read_dotenv : Dotenv lineRead where
  surrounding file other name same := by
    rw [lineRead, lineRead, assignments_newline, assignments_newline, ← assignments_trim file, same,
      assignments_trim]
  appended base added name plain := by
    have shape : withLines base added = base ++ 10 :: ([] ++ 10 :: lines added) := by
      simp [withLines, newline]
    rw [lineRead, shape, assignments_split (by decide), assignments_split (by decide),
      assignments_nil, List.nil_append, assignments_lines plain, assigned_append, lineRead,
      assignments_newline]
  ended file name _ := by rw [lineRead, assignments_newline, lineRead]
  apart _ text _ name opened _ ends := line_read_between opened.1 ends text name
  comment inside name one_line := by
    rw [line_read_alone (List.forall_mem_cons.mpr ⟨by decide, one_line⟩), read_comment]
    rfl
  begun name shown text begins one_line := by
    obtain ⟨value, read, kept⟩ := read_begun_line begins
    refine ⟨value, kept, fun other => ?_⟩
    rw [line_read_alone one_line, read]
    by_cases own : other = name
    · simp [assigned, own]
    · simp [assigned, own]

end LineReading

/-- A file with a key list and a placeholder. -/
def listedFile : JsString :=
  js "CHAT_ENCRYPTION_KEYS=7:" ++ toBase64 (sampleDraw 5).key.bytes ++
    js "\nCHAT_ENCRYPTION_KEY_VERSION=7\n# The secret:\nJWT_SECRET=CHANGE_ME # soon\nPORT=80"

theorem listed_file_kept : Keeps lineRead true listedFile := by
  have settling : ∀ p ∈ cut (assigning secretKey) (trim listedFile),
      contains placeholder (nextLines p.2) = false ∧
      ∀ key ∈ firstKeys, hasKey key (trim listedFile) = true →
        hasKey key (p.1 ++ assigning secretKey) = true ∨ hasKey key (nextLines p.2) = true := by
    decide +kernel
  have placed : ∀ p ∈ cut (assigning secretKey) (trim listedFile),
      EndsLine (nextLines p.2) ∧ Opens p.1 ∧ js "CHANGE_ME" <+: p.2 := by decide +kernel
  have safe : Safe lineRead listedFile :=
    { keysNamed := Or.inl (by decide +kernel)
      secretNamed := Or.inl (by decide +kernel)
      ended := Or.inr (by decide +kernel)
      settling := fun _ => ⟨by decide +kernel, fun front back is_cut =>
        settling (front, back) is_cut⟩
      placed := fun _ front back is_cut => by
        obtain ⟨ends, begins⟩ := placed (front, back) is_cut
        exact ⟨ends, Or.inl begins⟩ }
  exact (safe_update_keeps line_read_dotenv (by decide +kernel)).1 safe

/-- A file with the older single key. -/
def legacyFile : JsString :=
  js "CHAT_ENCRYPTION_KEY=" ++ List.replicate 64 (unit '0') ++ js "\nJWT_SECRET=long-enough\n"

theorem legacy_messages_lost : ¬ ∀ read, Dotenv read → ∀ examplePath file, trim file ≠ [] →
    Keeps read examplePath file := by
  intro every
  have keeps := every lineRead line_read_dotenv true legacyFile (by decide +kernel)
  have unnamed : hasKey (js "CHAT_ENCRYPTION_KEYS") (trim legacyFile) = false := by decide +kernel
  have starts : (start (environment lineRead legacyFile)).isOk = true := by decide +kernel
  rcases keys_named_of_keeps line_read_dotenv (by decide +kernel) keeps with named | none_starts
  · rw [unnamed] at named
    exact Bool.noConfusion named
  · cases started : start (environment lineRead legacyFile) with
    | error e =>
      rw [started] at starts
      exact Bool.noConfusion starts
    | ok old => exact none_starts old started

end LocalEnvKeys
