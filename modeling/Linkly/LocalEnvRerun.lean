import Linkly.InitLocalEnv

/-!
The script run again on what it has written. The second run changes nothing exactly when the first
one has left no placeholder and has not lost a key of its own with the line of the secret.
-/
namespace LocalEnvRerun
open JsText SettingText TextSearch ByteText ChatEncryption InitLocalEnv

section Renewed

/-- What stands behind the line that begins with the text. -/
def nextLines (back : JsString) : JsString := back.dropWhile fun u => !isLineTerminator u

theorem terminator_blank {u : UInt16} (stop : isLineTerminator u = true) : isBlank u = true := by
  simp only [isLineTerminator, Bool.or_eq_true, decide_eq_true_eq] at stop
  rcases stop with ((rfl | rfl) | rfl) | rfl <;> decide

theorem next_lines_shape (back : JsString) : nextLines back = [] ∨
    ∃ u more, nextLines back = u :: more ∧ isBlank u = true := by
  cases lines : nextLines back with
  | nil => exact Or.inl rfl
  | cons u more =>
    have stop := List.head?_dropWhile_not (fun u => !isLineTerminator u) back
    rw [nextLines] at lines
    rw [lines] at stop
    exact Or.inr ⟨u, more, rfl, terminator_blank (by simpa using stop)⟩

theorem occurs_next_lines {joins : UInt16 → Bool} {pattern : JsString} (present : pattern ≠ [])
    (dark : ∀ u ∈ pattern, isBlank u = false) (apart : ∀ u, isBlank u = true → joins u = false)
    (text back : JsString) : occurs joins pattern (text ++ nextLines back) =
      (occurs joins pattern text || occurs joins pattern (nextLines back)) := by
  rcases next_lines_shape back with none_left | ⟨u, more, shape, blank⟩
  · simp [none_left, occurs, occursBehind]
  · have absent : u ∉ pattern := fun mem => by simp [dark u mem] at blank
    have front := occurs_split present absent (apart u blank) [] more
    rw [List.nil_append] at front
    rw [shape, occurs_split present absent (apart u blank), front]
    simp [occurs, occursBehind]

theorem placeholder_dark : ∀ u ∈ placeholder, isBlank u = false := by
  have all_dark : (placeholder.all fun u => !isBlank u) = true := by decide
  simpa using all_dark

variable {text front back : JsString} (is_cut : cut (assigning secretKey) text = some (front, back))
  (draw : Draw)
include is_cut

theorem renewed_cut (renewal : renews text = true) : renewed draw text =
    front ++ assigning secretKey ++ toBase64 draw.secret ++ nextLines back := by
  rw [renewed, if_pos renewal, replaceLine, is_cut]
  simp [nextLines]

theorem has_key_renewed {key : JsString} (word : Word key) (renewal : renews text = true) :
    hasKey key (renewed draw text) =
      (hasKey key (front ++ assigning secretKey) || hasKey key (nextLines back)) := by
  have last : (assigning key).getLast? = some (unit '=') := by simp [assigning]
  have no_mark : unit '=' ∉ toBase64 draw.secret := by
    rw [secret_text_eq]
    intro mem
    obtain ⟨n, in_sextets, same⟩ := List.mem_map.mp mem
    have digits : ∀ n < 64, base64Digit n ≠ unit '=' := by decide
    exact digits n (sextets_small in_sextets) same
  rw [renewed_cut is_cut draw renewal, hasKey,
    occurs_next_lines (assigning_ne_nil key) (assigning_dark word) fun _ => blank_apart,
    occurs_append_right last no_mark]
  rfl

theorem contains_renewed (renewal : renews text = true) :
    contains placeholder (renewed draw text) = contains placeholder (nextLines back) := by
  have first_gone : contains placeholder
      (front ++ assigning secretKey ++ toBase64 draw.secret) = false := by
    by_contra found
    have start := contains_placeholder_start (Bool.of_not_eq_false found)
    rw [contains_before_secret] at start
    obtain ⟨before, after, whole⟩ := (contains_iff (by decide)).mp start
    have alone := cut_replace_back (assigning_ne_nil secretKey) is_cut []
    rw [List.append_nil] at alone
    have earlier : front ++ assigning secretKey =
        before ++ assigning secretKey ++ (js "CHANGE_" ++ after) := by simp [whole]
    have order := cut_first alone earlier
    have lengths := congrArg List.length earlier
    have more : (js "CHANGE_").length = 7 := rfl
    simp only [List.length_append, more] at lengths
    omega
  have split : contains placeholder
      (front ++ assigning secretKey ++ toBase64 draw.secret ++ nextLines back) =
        (contains placeholder (front ++ assigning secretKey ++ toBase64 draw.secret) ||
          contains placeholder (nextLines back)) :=
    occurs_next_lines (by decide) placeholder_dark (fun _ _ => rfl) _ back
  rw [renewed_cut is_cut draw renewal, split, first_gone, Bool.false_or]

end Renewed

section Rerun
variable (examplePath : Bool)

theorem first_keys_word : ∀ key ∈ firstKeys, Word key := by decide

/-- The file before its blanks are trimmed. -/
def final (draw : Draw) (text : JsString) : JsString :=
  withLines (renewed draw text) (added examplePath draw text)

theorem trim_update (draw : Draw) {existing : JsString} (nonblank : trim existing ≠ []) :
    trim (update examplePath draw existing) = trim (final examplePath draw (trim existing)) := by
  rw [update_eq examplePath draw nonblank, trim_blank_back newline_blank, trim_trim, final]

theorem has_key_updated {key : JsString} (word : Word key) (draw : Draw) {existing : JsString}
    (nonblank : trim existing ≠ []) : hasKey key (trim (update examplePath draw existing)) =
      hasKey key (final examplePath draw (trim existing)) := by
  rw [trim_update examplePath draw nonblank, has_key_trim word]

theorem contains_updated (draw : Draw) {existing : JsString} (nonblank : trim existing ≠ []) :
    contains placeholder (trim (update examplePath draw existing)) =
      contains placeholder (renewed draw (trim existing)) := by
  have none_added : (added examplePath draw (trim existing)).any
      (fun a => contains placeholder (assigning a.1 ++ a.2)) = false := by
    rw [List.any_eq_false]
    intro a mem
    simp [(added_plain mem).2]
  rw [trim_update examplePath draw nonblank, contains_trim (by decide) placeholder_dark, final,
    contains_with_lines (by decide) (by decide), none_added, Bool.or_false]

variable {examplePath}

/-- A key that the file lacks is appended. -/
theorem missing_key_appended (draw : Draw) {text key : JsString} (first : key ∈ firstKeys)
    (absent : hasKey key text = false) :
    (added examplePath draw text).any (fun a => hasKey key (assigning a.1 ++ a.2)) = true := by
  have word := first_keys_word key first
  have appended : ∀ entry ∈ defaults draw, ∀ value, (entry.1, value) ∈ entry.2 →
      entry.1 = key → (missing (defaults draw) (withLines text [])).any
        (fun a => hasKey key (assigning a.1 ++ a.2)) = true := by
    rintro entry mem value given rfl
    have found := add_all_finds mem word given text []
    rw [add_all_eq, with_lines_append, List.nil_append, has_key_with_lines word, absent,
      Bool.false_or] at found
    exact found
  rw [added, afterDefaults, List.any_append, List.any_append, Bool.or_eq_true, Bool.or_eq_true]
  simp only [firstKeys, List.mem_cons, List.not_mem_nil, or_false] at first
  rcases first with rfl | rfl | rfl | rfl | rfl
  · exact Or.inl (Or.inl (appended nodeEnv (by simp [defaults]) (js "development")
      (by simp [nodeEnv, single]) rfl))
  · exact Or.inl (Or.inl (appended port (by simp [defaults]) (js "3001")
      (by simp [port, single]) rfl))
  · exact Or.inl (Or.inl (appended apiUrl (by simp [defaults]) (js "http://localhost:3001")
      (by simp [apiUrl, single]) rfl))
  · exact Or.inl (Or.inl (appended (encryptionKeys draw) (by simp [defaults])
      (js "1:" ++ toBase64 draw.key.bytes) (by simp [encryptionKeys]) rfl))
  · refine Or.inl (Or.inr ?_)
    rw [secretLine, absent]
    simp [has_key_line]

theorem has_key_final {key : JsString} (word : Word key) (draw : Draw) (text : JsString) :
    hasKey key (final examplePath draw text) = (hasKey key (renewed draw text) ||
      (added examplePath draw text).any fun a => hasKey key (assigning a.1 ++ a.2)) :=
  has_key_with_lines word _ _

theorem update_nonblank (draw : Draw) {existing : JsString} (nonblank : trim existing ≠ []) :
    trim (update examplePath draw existing) ≠ [] := by
  have word : Word secretKey := by decide
  have assigned : contains (assigning secretKey) (final examplePath draw (trim existing)) = true := by
    by_cases renewal : renews (trim existing) = true
    · obtain ⟨front, back, is_cut⟩ := exists_cut (Bool.and_eq_true_iff.mp renewal).2
      apply (contains_iff (assigning_ne_nil secretKey)).mpr
      refine ⟨front, toBase64 draw.secret ++ nextLines back ++ newline ++ newline ++
        lines (added examplePath draw (trim existing)), ?_⟩
      rw [final, renewed_cut is_cut draw renewal]
      simp [withLines]
    · have there : hasKey secretKey (final examplePath draw (trim existing)) = true := by
        rw [has_key_final word, Bool.or_eq_true]
        by_cases named : hasKey secretKey (trim existing) = true
        · exact Or.inl (by rw [renewed, if_neg renewal, named])
        · exact Or.inr (missing_key_appended draw (by simp [firstKeys])
            (Bool.of_not_eq_true named))
      obtain ⟨front, back, whole, _⟩ := (occurs_iff (assigning_ne_nil secretKey)).mp there
      exact (contains_iff (assigning_ne_nil secretKey)).mpr ⟨front, back, whole⟩
  intro nothing
  rw [← contains_trim (assigning_ne_nil secretKey) (assigning_dark word),
    ← trim_update examplePath draw nonblank, nothing] at assigned
  exact Bool.noConfusion assigned

end Rerun

section Settled
variable {examplePath : Bool}

/-- In a file with a placeholder the secret has a key, the first assignment of a secret is the last
    placeholder, and the keys that stand behind it on its line stand elsewhere, too. -/
def Settling (text : JsString) : Prop :=
  contains placeholder text = true → hasKey secretKey text = true ∧
    ∀ front back, cut (assigning secretKey) text = some (front, back) →
      contains placeholder (nextLines back) = false ∧
      ∀ key ∈ firstKeys, hasKey key text = true →
        hasKey key (front ++ assigning secretKey) = true ∨ hasKey key (nextLines back) = true

theorem settling_renewed {text : JsString} (settling : Settling text) (draw : Draw) :
    contains placeholder (renewed draw text) = false ∧
      ∀ key ∈ firstKeys, hasKey key text = true → hasKey key (renewed draw text) = true := by
  by_cases found : contains placeholder text = true
  · obtain ⟨named, line⟩ := settling found
    obtain ⟨front, back, is_cut⟩ := exists_cut found
    obtain ⟨last, kept⟩ := line front back is_cut
    have renewal : renews text = true := by rw [renews, named, found, Bool.and_self]
    refine ⟨by rw [contains_renewed is_cut draw renewal, last], ?_⟩
    intro key first there
    rw [has_key_renewed is_cut draw (first_keys_word key first) renewal, Bool.or_eq_true]
    exact kept key first there
  · have same : renewed draw text = text := by simp [renewed, renews, found]
    rw [same]
    exact ⟨by simpa using found, fun _ _ there => there⟩

theorem first_key_final {text key : JsString} (settling : Settling text) (draw : Draw)
    (first : key ∈ firstKeys) : hasKey key (final examplePath draw text) = true := by
  rw [has_key_final (first_keys_word key first), Bool.or_eq_true]
  by_cases there : hasKey key text = true
  · exact Or.inl ((settling_renewed settling draw).2 key first there)
  · exact Or.inr (missing_key_appended draw first (Bool.of_not_eq_true there))

theorem examples_final (draw : Draw) (text : JsString) : ∀ entry ∈ examplesOf examplePath,
    (Word entry.1 ∧ hasKey entry.1 (final examplePath draw text) = true) ∨ entry.2 = [] := by
  intro entry mem
  cases given : entry.2 with
  | nil => exact Or.inr rfl
  | cons a more =>
    have first : a ∈ entry.2 := by rw [given]; exact List.mem_cons_self
    obtain ⟨same, plain, _⟩ := example_entries_plain entry (mem_examples mem) a first
    have word : Word entry.1 := same ▸ plain.1
    have named : (entry.1, a.2) ∈ entry.2 := by rw [← same]; exact first
    have found := add_all_finds mem word named (renewed draw text) (afterDefaults draw text)
    rw [add_all_eq, with_lines_append] at found
    exact Or.inl ⟨word, found⟩

/-- A trimmed file with all keys and without a placeholder stays as it is. -/
theorem update_complete (draw : Draw) {text : JsString} (trimmed : trim text = text)
    (nonblank : text ≠ []) (no_placeholder : contains placeholder text = false)
    (first : ∀ key ∈ firstKeys, hasKey key text = true)
    (examples : ∀ entry ∈ examplesOf examplePath, hasKey entry.1 text = true ∨ entry.2 = []) :
    update examplePath draw (text ++ newline) = text ++ newline := by
  have same_trim : trim (text ++ newline) = text := by rw [trim_blank_back newline_blank, trimmed]
  have same : renewed draw text = text := by simp [renewed, renews, no_placeholder]
  have in_lines : ∀ key, hasKey key text = true → hasKey key (withLines text []) = true := by
    intro key there
    have longer := has_key_append (has_key_append there newline) newline
    simpa [withLines, lines] using longer
  have defaults_there : ∀ entry ∈ defaults draw, entry.1 ∈ firstKeys := by
    intro entry mem
    simp only [defaults, List.mem_cons, List.not_mem_nil, or_false] at mem
    rcases mem with rfl | rfl | rfl | rfl <;>
      simp [nodeEnv, port, apiUrl, encryptionKeys, single, firstKeys]
  have no_defaults : missing (defaults draw) (withLines text []) = [] :=
    missing_present fun entry mem =>
      Or.inl (in_lines entry.1 (first entry.1 (defaults_there entry mem)))
  have no_secret : secretLine draw text = [] := by
    simp [secretLine, first secretKey (by simp [firstKeys])]
  have no_examples : missing (examplesOf examplePath) (withLines text []) = [] := by
    apply missing_present
    intro entry mem
    rcases examples entry mem with there | nothing
    · exact Or.inl (in_lines entry.1 there)
    · exact Or.inr nothing
  have plain : withLines text [] = text ++ newline ++ newline := by simp [withLines, lines]
  rw [update_eq examplePath draw (by rw [same_trim]; exact nonblank), same_trim, same, added,
    afterDefaults, no_defaults, no_secret, List.append_nil, same, no_examples, List.append_nil,
    plain, trim_blank_back newline_blank, trim_blank_back newline_blank, trimmed]

theorem settled_of_settling {existing : JsString} (nonblank : trim existing ≠ [])
    (settling : Settling (trim existing)) (draw again : Draw) :
    update examplePath again (update examplePath draw existing) =
      update examplePath draw existing := by
  let text := trim (final examplePath draw (trim existing))
  have written : update examplePath draw existing = text ++ newline :=
    update_eq examplePath draw nonblank
  have first : ∀ key ∈ firstKeys, hasKey key text = true := by
    intro key mem
    rw [has_key_trim (first_keys_word key mem)]
    exact first_key_final settling draw mem
  have something : text ≠ [] := by
    have updated : trim (update examplePath draw existing) ≠ [] := update_nonblank draw nonblank
    rwa [trim_update examplePath draw nonblank] at updated
  have no_placeholder : contains placeholder text = false := by
    have updated := contains_updated examplePath draw nonblank
    rw [trim_update examplePath draw nonblank, (settling_renewed settling draw).1] at updated
    exact updated
  have examples : ∀ entry ∈ examplesOf examplePath, hasKey entry.1 text = true ∨ entry.2 = [] := by
    intro entry mem
    rcases examples_final draw (trim existing) entry mem with ⟨word, there⟩ | nothing
    · exact Or.inl (by rw [has_key_trim word]; exact there)
    · exact Or.inr nothing
  rw [written]
  exact update_complete again (trim_trim _) something no_placeholder first examples

end Settled

section Unsettled
variable {examplePath : Bool}

theorem to_base64_injective {a b : List UInt8} (same : toBase64 a = toBase64 b) : a = b := by
  rw [← of_to_base64 a, same, of_to_base64]

theorem trim_start_front {front back : JsString} {sep : UInt16} (dark : isBlank sep = false)
    (trimmed : trim (front ++ sep :: back) = front ++ sep :: back) : trimStart front = front := by
  have parts := trim_append dark front back
  rw [trimmed] at parts
  have start_suffix : trimStart front <:+ front := List.dropWhile_suffix _
  have end_prefix : trimEnd back <+: back := List.rdropWhile_prefix isBlank back
  have lengths := congrArg List.length parts
  have short_start := start_suffix.length_le
  have short_end := end_prefix.length_le
  simp only [List.length_append, List.length_cons] at lengths
  exact start_suffix.eq_of_length (by omega)

theorem trim_start_dark {text : JsString} (dark : ∀ u ∈ text, isBlank u = false)
    (something : text ≠ []) (more : JsString) : trimStart (text ++ more) = text ++ more := by
  cases text with
  | nil => exact absurd rfl something
  | cons u text => simp [trimStart, dark u List.mem_cons_self]

theorem trim_end_dark {text : JsString} (dark : ∀ u ∈ text, isBlank u = false)
    (something : text ≠ []) (more : JsString) : trimEnd (text ++ more) = text ++ trimEnd more := by
  rcases List.eq_nil_or_concat text with rfl | ⟨front, u, rfl⟩
  · exact absurd rfl something
  · have dark_u := dark u (by simp)
    rw [List.concat_append, trim_end_append dark_u, List.concat_append]

theorem secret_ne_nil (draw : Draw) : toBase64 draw.secret ≠ [] := by
  intro nothing
  have length := secret_text_length draw
  simp [nothing] at length

section Draws
variable (examplePath)

/-- The renewed secret stands behind the first assignment of a secret in the new file. -/
theorem cut_update (draw : Draw) {existing front back : JsString}
    (renewal : renews (trim existing) = true)
    (is_cut : cut (assigning secretKey) (trim existing) = some (front, back)) :
    ∃ more, cut (assigning secretKey) (update examplePath draw existing) =
      some (front, toBase64 draw.secret ++ more) := by
  have dark : isBlank (unit '=') = false := by decide
  have whole : trim existing = front ++ secretKey ++ unit '=' :: back := by
    rw [cut_spec is_cut]
    simp [assigning]
  have nonblank : trim existing ≠ [] := by rw [whole]; simp
  have start : trimStart (front ++ secretKey) = front ++ secretKey := by
    apply trim_start_front dark
    rw [← whole, trim_trim]
  let rest := nextLines back ++ newline ++ newline ++
    lines (added examplePath draw (trim existing))
  have shape : final examplePath draw (trim existing) =
      (front ++ secretKey) ++ unit '=' :: (toBase64 draw.secret ++ rest) := by
    rw [final, renewed_cut is_cut draw renewal]
    simp [withLines, rest, assigning]
  have written : update examplePath draw existing =
      front ++ assigning secretKey ++ (toBase64 draw.secret ++ (trimEnd rest ++ newline)) := by
    rw [update_eq examplePath draw nonblank, ← final, shape, trim_append dark, start,
      trim_end_dark (secret_text_dark draw) (secret_ne_nil draw)]
    simp [assigning]
  refine ⟨trimEnd rest ++ newline, ?_⟩
  rw [written]
  exact cut_replace_back (assigning_ne_nil secretKey) is_cut _

theorem sample_key_size (byte : UInt8) : (List.replicate 32 byte).length = 32 :=
  List.length_replicate

theorem sample_secret_size (byte : UInt8) : (List.replicate 48 byte).length = 48 :=
  List.length_replicate

def sampleDraw (byte : UInt8) : Draw :=
  ⟨⟨List.replicate 32 byte, sample_key_size byte⟩, List.replicate 48 byte, sample_secret_size byte⟩

/-- A secret that is renewed in each run differs from one run to another. -/
theorem not_settled {existing : JsString} (renewal : renews (trim existing) = true) :
    ¬ ∀ again, update examplePath again existing = existing := by
  intro settled
  have found : contains placeholder (trim existing) = true := (Bool.and_eq_true_iff.mp renewal).2
  obtain ⟨front, back, is_cut⟩ := exists_cut found
  obtain ⟨first, cut_first⟩ := cut_update examplePath (sampleDraw 0) renewal is_cut
  obtain ⟨second, cut_second⟩ := cut_update examplePath (sampleDraw 1) renewal is_cut
  rw [settled] at cut_first cut_second
  rw [cut_first] at cut_second
  have same := (Prod.mk.inj (Option.some.inj cut_second)).2
  have lengths : (toBase64 (sampleDraw 0).secret).length =
      (toBase64 (sampleDraw 1).secret).length := by
    rw [secret_text_length, secret_text_length]
  have secrets := to_base64_injective (List.append_inj_left same lengths)
  simp [sampleDraw] at secrets

end Draws

/-- A key that a file lacks is there after the run. -/
theorem settled_has_key {existing key : JsString} (nonblank : trim existing ≠ []) (again : Draw)
    (settled : update examplePath again existing = existing) (first : key ∈ firstKeys) :
    hasKey key (trim existing) = true := by
  by_contra absent
  have updated := has_key_updated examplePath (first_keys_word key first) again nonblank
  rw [settled, has_key_final (first_keys_word key first),
    missing_key_appended again first (Bool.of_not_eq_true absent), Bool.or_true] at updated
  exact absent updated

/-- With this draw the appended lines have only the keys they are for. -/
theorem sample_lines_own : ∀ entry ∈ defaults (sampleDraw 0), ∀ a ∈ entry.2,
    ∀ key ∈ firstKeys, hasKey key (assigning a.1 ++ a.2) = true → entry.1 = key := by
  decide +kernel

theorem present_key_not_appended {text key : JsString} (first : key ∈ firstKeys)
    (secret : hasKey secretKey text = true) (there : hasKey key text = true) :
    (added examplePath (sampleDraw 0) text).any
      (fun a => hasKey key (assigning a.1 ++ a.2)) = false := by
  have no_secret : secretLine (sampleDraw 0) text = [] := by simp [secretLine, secret]
  rw [added, afterDefaults, no_secret, List.append_nil, List.any_eq_false]
  intro a mem found
  rcases List.mem_append.mp mem with early | late
  · obtain ⟨entry, in_defaults, in_entry, absent⟩ := mem_missing early
    rw [sample_lines_own entry in_defaults a in_entry key first found,
      has_key_with_lines (first_keys_word key first), there] at absent
    simp at absent
  · obtain ⟨entry, in_examples, in_entry, _⟩ := mem_missing late
    rw [(example_entries_plain entry (mem_examples in_examples) a in_entry).2.2.2.2 key first] at found
    simp at found

theorem settling_of_settled {existing : JsString} (nonblank : trim existing ≠ [])
    (settled : ∀ draw again, update examplePath again (update examplePath draw existing) =
      update examplePath draw existing) : Settling (trim existing) := by
  intro found
  have has_keys : ∀ draw, ∀ key ∈ firstKeys,
      hasKey key (trim (update examplePath draw existing)) = true := by
    intro draw key first
    exact settled_has_key (update_nonblank draw nonblank) draw (settled draw draw) first
  have no_placeholder : ∀ draw, contains placeholder (renewed draw (trim existing)) = false := by
    intro draw
    by_contra left
    have renewal : renews (trim (update examplePath draw existing)) = true := by
      rw [renews, has_keys draw secretKey (by simp [firstKeys]),
        contains_updated examplePath draw nonblank, Bool.of_not_eq_false left, Bool.and_self]
    exact not_settled examplePath renewal (settled draw)
  have named : hasKey secretKey (trim existing) = true := by
    by_contra absent
    have same : renewed (sampleDraw 0) (trim existing) = trim existing := by
      simp [renewed, renews, absent]
    have gone := no_placeholder (sampleDraw 0)
    rw [same, found] at gone
    exact Bool.noConfusion gone
  refine ⟨named, ?_⟩
  intro front back is_cut
  have renewal : renews (trim existing) = true := by rw [renews, named, found, Bool.and_self]
  constructor
  · rw [← contains_renewed is_cut (sampleDraw 0) renewal]
    exact no_placeholder (sampleDraw 0)
  · intro key first there
    have word := first_keys_word key first
    have kept := has_keys (sampleDraw 0) key first
    rw [has_key_updated examplePath word (sampleDraw 0) nonblank, has_key_final word,
      present_key_not_appended first named there, Bool.or_false,
      has_key_renewed is_cut (sampleDraw 0) word renewal, Bool.or_eq_true] at kept
    exact kept

end Unsettled

end LocalEnvRerun
