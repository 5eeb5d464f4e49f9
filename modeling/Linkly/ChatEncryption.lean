import Linkly.ChatService
import Linkly.JsonText
import Linkly.SettingText

/-!
The encryption of chat messages: the keys a process reads from its settings when it starts, and the
cipher of the chat service that they give. AES-256-GCM itself is a parameter.
-/
namespace ChatEncryption
open JsText ByteText Utf8Text JsonText SettingText ChatService

inductive Setting where
  | chatEncryptionKeyVersion
  | chatEncryptionKeys
  | chatEncryptionKey
  deriving DecidableEq, Repr

structure Environment where
  config : Setting → Option JsString
  process : Setting → Option JsString

def Environment.getEnv (env : Environment) (name : Setting) : Option JsString :=
  (env.config name).or (env.process name)

structure Key where
  bytes : List UInt8
  size : bytes.length = 32
  deriving DecidableEq, Repr

/-- In any of the encodings that a key may be given in. -/
def Key.WrittenAs (key : Key) (code : JsString) : Prop :=
  HexOf code key.bytes ∨ Base64Of code key.bytes

inductive StartError where
  | keyFormat (length : Nat)
  | noKeys
  | noActiveKey (version : Int)
  deriving DecidableEq, Repr

def StartError.message : StartError → String
  | .keyFormat length =>
    "채팅 암호화 키 형식이 올바르지 않습니다. 32바이트(base64/base64url 또는 64자리 hex)여야 합니다. 입력 길이: " ++
      toString length
  | .noKeys =>
    "채팅 암호화 키가 없습니다. 확인한 변수: CHAT_ENCRYPTION_KEYS, CHAT_ENCRYPTION_KEY / 확인한 파일: " ++
      ".env.local (레포 루트), .env (레포 루트), apps/api/.env.local, apps/api/.env.\n" ++
      "해결 방법: 레포 루트에서 `pnpm init:env` 실행 후 다시 시작하세요."
  | .noActiveKey version =>
    "활성 채팅 암호화 키 버전(" ++ toString version ++ ")이 CHAT_ENCRYPTION_KEYS에 없습니다."

def isHex (text : JsString) : Bool := text.all (hexValue · |>.isSome) ∧ text.length = 64

def replaceUrlDigit (u : UInt16) : UInt16 :=
  if u = unit '-' then unit '+' else if u = unit '_' then unit '/' else u

def normalize (text : JsString) : JsString :=
  if isHex text ∨ text.any fun u => u = unit '+' ∨ u = unit '/' ∨ u = unit '=' then text
  else text.map replaceUrlDigit

def decodeKey (raw : JsString) : Except StartError Key :=
  let trimmed := trim raw
  let buffer := if isHex trimmed then ofHex (normalize trimmed) else ofBase64 (normalize trimmed)
  if size : buffer.length = 32 then .ok ⟨buffer, size⟩ else .error (.keyFormat trimmed.length)

/-- The version and the key text of an entry that is not passed over. -/
def readEntry (entry : JsString) : Option (Int × JsString) :=
  match entry.splitOn (unit ':') with
  | versionRaw :: keyRaw :: _ =>
    if versionRaw = [] ∨ keyRaw = [] then none
    else (parseInt versionRaw).map fun version => (version, keyRaw)
  | _ => none

/-- The keys by version; the first pair with a version is the one that counts. -/
abbrev Keys := List (Int × Key)

def setEntries : List JsString → Keys → Except StartError Keys
  | [], keys => .ok keys
  | entry :: entries, keys =>
    match readEntry entry with
    | none => setEntries entries keys
    | some (version, keyRaw) =>
      match decodeKey keyRaw with
      | .error e => .error e
      | .ok key => setEntries entries ((version, key) :: keys)

structure ChatEncryptionService where
  keys : Keys
  activeVersion : Int
  active : (keys.lookup activeVersion).isSome

def activeVersionOf (env : Environment) : Int :=
  (parseInt ((env.getEnv .chatEncryptionKeyVersion).getD (js "1"))).getD 1

/-- A setting that is absent counts as an empty one. -/
def trimmedSetting (env : Environment) (name : Setting) : JsString :=
  ((env.getEnv name).map trim).getD []

def readKeys (env : Environment) : Except StartError Keys :=
  let keysEnv := trimmedSetting env .chatEncryptionKeys
  let legacyKey := trimmedSetting env .chatEncryptionKey
  if keysEnv ≠ [] then setEntries (parts (unit ',') keysEnv) []
  else if legacyKey ≠ [] then
    match decodeKey legacyKey with
    | .error e => .error e
    | .ok key => .ok [(activeVersionOf env, key)]
  else .ok []

def start (env : Environment) : Except StartError ChatEncryptionService :=
  match readKeys env with
  | .error e => .error e
  | .ok keys =>
    if keys = [] then .error .noKeys
    else if active : (keys.lookup (activeVersionOf env)).isSome then
      .ok ⟨keys, activeVersionOf env, active⟩
    else .error (.noActiveKey (activeVersionOf env))

/-- A cipher gives the ciphertext and the tag; a decipher takes the iv, the tag and the ciphertext. -/
structure AesGcm where
  createCipheriv : Key → List UInt8 → List UInt8 → List UInt8 × List UInt8
  createDecipheriv : Key → List UInt8 → List UInt8 → List UInt8 → Option (List UInt8)

/-- Decryption under the key, iv and tag of an encryption gives its plaintext back. -/
def AesGcm.Inverts (gcm : AesGcm) : Prop :=
  ∀ key iv plaintext, iv.length = 12 →
    gcm.createDecipheriv key iv (gcm.createCipheriv key iv plaintext).2
      (gcm.createCipheriv key iv plaintext).1 = some plaintext

namespace ChatEncryptionService

def activeKey (service : ChatEncryptionService) : Key :=
  (service.keys.lookup service.activeVersion).get service.active

variable (gcm : AesGcm)

def encrypt (service : ChatEncryptionService) (iv : List UInt8)
    (plaintext : List (JsString × Option JsString)) : EncryptedPayload :=
  let payload := toUtf8 (stringify plaintext)
  let (ciphertext, tag) := gcm.createCipheriv service.activeKey iv payload
  { ciphertext := toBase64 ciphertext
    iv := toBase64 iv
    tag := toBase64 tag
    keyVersion := service.activeVersion }

def decrypt (service : ChatEncryptionService) (payload : EncryptedPayload) : Option Json := do
  let key ← service.keys.lookup payload.keyVersion
  let iv := ofBase64 payload.iv
  let tag := ofBase64 payload.tag
  let ciphertext := ofBase64 payload.ciphertext
  let plaintext ← gcm.createDecipheriv key iv tag ciphertext
  parse (ofUtf8 plaintext)

end ChatEncryptionService

/-- A member that is missing or null is null; only strings are modelled otherwise. -/
def nullable : Option Json → Option (Option JsString)
  | none | some .null => some none
  | some (.string text) => some (some text)
  | some _ => none

def readContent (json : Json) : Option Content := do
  match json with
  | .null => none
  | json => return ⟨← nullable (json.member? (js "text")), ← nullable (json.member? (js "imageUrl"))⟩

/-- What the chat service uses of the encryption. -/
def ChatEncryptionService.cipher (service : ChatEncryptionService) (gcm : AesGcm) : Cipher where
  encrypt iv content :=
    service.encrypt gcm iv [(js "text", content.text), (js "imageUrl", content.imageUrl)]
  decrypt payload := (service.decrypt gcm payload).bind readContent

section KeyText

theorem hex_value_plain {u : UInt16} {n : Nat} (value : hexValue u = some n) :
    isBlank u = false ∧ u ≠ unit ':' := by
  have range : 48 ≤ u.toNat ∧ u.toNat ≤ 102 ∧ u.toNat ≠ 58 := by
    unfold hexValue at value
    split_ifs at value <;> omega
  constructor
  · simp only [isBlank, UInt16.le_iff_toNat_le, ← UInt16.toNat_inj, Bool.or_eq_false_iff,
      Bool.and_eq_false_iff, decide_eq_false_iff_not]
    simp only [UInt16.reduceToNat]
    omega
  · rintro rfl
    exact range.2.2 rfl

theorem base64_digit_plain : ∀ digit ∈ [base64Digit, urlDigit], ∀ n < 64,
    isBlank (digit n) = false ∧ digit n ≠ unit ':' := by decide

theorem written_plain {key : Key} {code : JsString} (written : key.WrittenAs code) :
    ∀ u ∈ code, isBlank u = false ∧ u ≠ unit ':' := by
  intro u mem
  rcases written with digits | ⟨digit, alphabet, tail, closed, rfl⟩
  · have read : hexValue u ∈ (nibbles key.bytes).map some := digits ▸ List.mem_map_of_mem mem
    obtain ⟨n, _, value⟩ := List.mem_map.mp read
    exact hex_value_plain value.symm
  · rcases List.mem_append.mp mem with front | back
    · obtain ⟨n, in_sextets, rfl⟩ := List.mem_map.mp front
      exact base64_digit_plain digit alphabet n (sextets_small in_sextets)
    · rcases List.mem_pair.mp closed with rfl | rfl
      · simp at back
      · rw [List.eq_of_mem_replicate back]
        decide

theorem written_nonempty {key : Key} {code : JsString} (written : key.WrittenAs code) :
    code ≠ [] := by
  rintro rfl
  have size := key.size
  rcases written with digits | coded
  · have none_left := hex_length digits
    simp [size] at none_left
  · rw [← of_base64_of coded] at size
    simp [ofBase64, ofSextets] at size

theorem base64_length {text : JsString} {bytes : List UInt8} (code : Base64Of text bytes) :
    text.length = (4 * bytes.length + 2) / 3 ∨
      text.length = (4 * bytes.length + 2) / 3 + (3 - bytes.length % 3) % 3 := by
  obtain ⟨digit, _, tail, closed, rfl⟩ := code
  rcases List.mem_pair.mp closed with rfl | rfl
  · exact Or.inl (by simp [length_sextets])
  · exact Or.inr (by simp [length_sextets, padding])

theorem replaced_digit (u : UInt16) :
    sextet (replaceUrlDigit u) = sextet u ∧ (lowByte (replaceUrlDigit u) ≠ 61 ↔ lowByte u ≠ 61) := by
  unfold replaceUrlDigit
  split_ifs with dash underscore
  · rw [dash]
    decide
  · rw [underscore]
    decide
  · simp

/-- The decoder takes both alphabets, so the replacement changes nothing. -/
theorem of_base64_normalize (text : JsString) : ofBase64 (normalize text) = ofBase64 text := by
  unfold normalize
  split_ifs
  · rfl
  · have same_digit : sextet ∘ replaceUrlDigit = sextet := funext fun u => (replaced_digit u).1
    have same_stop : (fun u => decide (lowByte (replaceUrlDigit u) ≠ 61)) =
        fun u => decide (lowByte u ≠ 61) := funext fun u => by simp [replaced_digit u]
    rw [ofBase64, List.takeWhile_map, List.filterMap_map, same_digit, ofBase64]
    congr 2
    simp only [Function.comp_def, same_stop]

theorem hex_written {code : JsString} {key : Key} (digits : HexOf code key.bytes) :
    isHex code = true := by
  have length := hex_length digits
  have all_digits : ∀ u ∈ code, (hexValue u).isSome = true := by
    intro u mem
    have read : hexValue u ∈ (nibbles key.bytes).map some := digits ▸ List.mem_map_of_mem mem
    obtain ⟨n, _, value⟩ := List.mem_map.mp read
    rw [← value]
    rfl
  simpa [isHex, length, key.size] using all_digits

theorem base64_not_hex {code : JsString} {key : Key} (coded : Base64Of code key.bytes) :
    isHex code = false := by
  have length := base64_length coded
  rw [key.size] at length
  have apart : code.length ≠ 64 := by omega
  simp [isHex, apart]

theorem decode_trimmed {key : Key} {code raw : JsString} (written : key.WrittenAs code)
    (same : trim raw = code) : decodeKey raw = .ok key := by
  have buffer : (if isHex code then ofHex (normalize code) else ofBase64 (normalize code)) =
      key.bytes := by
    rcases written with digits | coded
    · have hex := hex_written digits
      rw [if_pos hex, normalize, if_pos (Or.inl hex), of_hex_digits digits]
    · rw [base64_not_hex coded, if_neg Bool.false_ne_true, of_base64_normalize, of_base64_of coded]
  simp only [decodeKey, same, buffer, key.size, ↓reduceDIte]

end KeyText

section Entries

/-- An entry with a version, whatever stands behind the colon. -/
def HasVersion (entry : JsString) (version : Int) : Prop :=
  unit ':' ∈ entry ∧ parseInt (entry.takeWhile (· ≠ unit ':')) = some version

instance (entry : JsString) (version : Int) : Decidable (HasVersion entry version) :=
  inferInstanceAs (Decidable (_ ∧ _))

/-- An entry with a version and a key, with blanks around them. -/
def Lists (entry : JsString) (version : Int) (key : Key) : Prop :=
  ∃ versionText front code back, entry = versionText ++ unit ':' :: (front ++ code ++ back) ∧
    unit ':' ∉ versionText ∧ parseInt versionText = some version ∧
    (∀ u ∈ front ++ back, isBlank u = true) ∧ key.WrittenAs code

/-- Among the entries of a key list there is one with the version and the key, and no other entry
    has that version. -/
def ListsOnce (keysText : JsString) (version : Int) (key : Key) : Prop :=
  ∃ before entry after, keysText.splitOn (unit ',') = before ++ entry :: after ∧
    Lists entry version key ∧ ∀ other ∈ before ++ after, ¬ HasVersion other version

theorem colon_dark : isBlank (unit ':') = false := by decide

theorem comma_dark : isBlank (unit ',') = false := by decide

theorem split_trimmed {versionText rest : JsString} (absent : unit ':' ∉ versionText) :
    (trim (versionText ++ unit ':' :: rest)).splitOn (unit ':') =
      trimStart versionText :: (trimEnd rest).splitOn (unit ':') := by
  have absent_start : unit ':' ∉ trimStart versionText :=
    fun mem => absent (trim_start_subset versionText mem)
  rw [trim_append colon_dark, List.splitOn_append_cons_self,
    List.splitOn_eq_singleton absent_start, List.singleton_append]

theorem read_listed {entry : JsString} {version : Int} {key : Key}
    (listed : Lists entry version key) :
    ∃ keyRaw, readEntry (trim entry) = some (version, keyRaw) ∧ decodeKey keyRaw = .ok key := by
  obtain ⟨versionText, front, code, back, rfl, absent, number, blank, written⟩ := listed
  have plain := written_plain written
  have blank_front : ∀ u ∈ front, isBlank u = true :=
    fun u mem => blank u (List.mem_append_left back mem)
  have blank_back : ∀ u ∈ back, isBlank u = true :=
    fun u mem => blank u (List.mem_append_right front mem)
  have trimmed : trim (trimEnd (front ++ code ++ back)) = code := by
    rw [trim_trim_end, trim_blank_back blank_back, trim_blank_front blank_front,
      trim_dark fun u mem => (plain u mem).1]
  have no_colon : unit ':' ∉ trimEnd (front ++ code ++ back) := by
    intro mem
    have inside := trim_end_subset _ mem
    rcases List.mem_append.mp inside with early | late
    · rcases List.mem_append.mp early with first | middle
      · exact absurd (blank_front _ first) (by decide)
      · exact (plain _ middle).2 rfl
    · exact absurd (blank_back _ late) (by decide)
  have key_there : trimEnd (front ++ code ++ back) ≠ [] := by
    intro nothing
    rw [nothing] at trimmed
    exact written_nonempty written trimmed.symm
  have version_number : parseInt (trimStart versionText) = some version := by
    rw [parse_int_trim_start, number]
  refine ⟨trimEnd (front ++ code ++ back), ?_, decode_trimmed written trimmed⟩
  rw [readEntry, split_trimmed absent, List.splitOn_eq_singleton no_colon]
  simp only [key_there, parse_int_nonempty version_number, or_self, ↓reduceIte, version_number,
    Option.map_some]

theorem has_version_of_read {entry keyRaw : JsString} {version : Int}
    (read : readEntry (trim entry) = some (version, keyRaw)) : HasVersion entry version := by
  by_cases present : unit ':' ∈ entry
  · obtain ⟨versionText, rest, rfl, absent⟩ := List.eq_append_cons_of_mem present
    have front : (versionText ++ unit ':' :: rest).takeWhile (· ≠ unit ':') = versionText := by
      have before_colon : ∀ u ∈ versionText, decide (u ≠ unit ':') = true := by
        intro u mem
        exact decide_eq_true fun same => absent (same ▸ mem)
      rw [List.takeWhile_append_of_pos before_colon]
      simp
    refine ⟨present, ?_⟩
    rw [front]
    rw [readEntry, split_trimmed absent] at read
    cases pieces : (trimEnd rest).splitOn (unit ':') with
    | nil => simp [pieces] at read
    | cons piece more =>
      simp only [pieces] at read
      split_ifs at read
      obtain ⟨number, parsed, same⟩ := Option.map_eq_some_iff.mp read
      rw [← parse_int_trim_start, parsed, (Prod.mk.inj same).1]
  · have absent : unit ':' ∉ trim entry :=
      fun mem => present (trim_start_subset entry (trim_end_subset _ mem))
    simp [readEntry, List.splitOn_eq_singleton absent] at read

theorem set_entries_other {entries : List JsString} {version : Int} {keys result : Keys}
    (absent : ∀ entry ∈ entries, ∀ keyRaw, readEntry entry ≠ some (version, keyRaw))
    (done : setEntries entries keys = .ok result) : result.lookup version = keys.lookup version := by
  induction entries generalizing keys with
  | nil =>
    cases done
    rfl
  | cons entry entries ih =>
    have later := fun other mem => absent other (List.mem_cons_of_mem entry mem)
    rw [setEntries] at done
    cases read : readEntry entry with
    | none =>
      rw [read] at done
      exact ih later done
    | some pair =>
      obtain ⟨number, keyRaw⟩ := pair
      rw [read] at done
      have apart : version ≠ number := by
        rintro rfl
        exact absent entry List.mem_cons_self keyRaw read
      cases decoded : decodeKey keyRaw with
      | error e => simp [decoded] at done
      | ok key =>
        simp only [decoded] at done
        rw [ih later done, List.lookup_cons, beq_false_of_ne apart]

theorem set_entries_append {front back : List JsString} {keys result : Keys}
    (done : setEntries (front ++ back) keys = .ok result) :
    ∃ middle, setEntries front keys = .ok middle ∧ setEntries back middle = .ok result := by
  induction front generalizing keys with
  | nil => exact ⟨keys, rfl, done⟩
  | cons entry front ih =>
    rw [List.cons_append, setEntries] at done
    rw [setEntries]
    cases read : readEntry entry with
    | none =>
      rw [read] at done
      exact ih done
    | some pair =>
      rw [read] at done
      cases decoded : decodeKey pair.2 with
      | error e => simp [decoded] at done
      | ok key =>
        simp only [decoded] at done ⊢
        exact ih done

/-- The key of an entry is set, and no later entry replaces it. -/
theorem set_entries_listed {before after : List JsString} {entry : JsString} {version : Int}
    {key : Key} {result : Keys} (listed : Lists entry version key)
    (once : ∀ other ∈ before ++ after, ¬ HasVersion other version)
    (done : setEntries ((before ++ entry :: after).map trim) [] = .ok result) :
    result.lookup version = some key := by
  rw [List.map_append, List.map_cons] at done
  obtain ⟨middle, _, rest⟩ := set_entries_append done
  obtain ⟨keyRaw, read, decoded⟩ := read_listed listed
  rw [setEntries, read] at rest
  simp only [decoded] at rest
  have absent : ∀ other ∈ after.map trim, ∀ raw, readEntry other ≠ some (version, raw) := by
    intro other mem raw same
    obtain ⟨untrimmed, in_after, rfl⟩ := List.mem_map.mp mem
    exact once untrimmed (List.mem_append_right before in_after) (has_version_of_read same)
  rw [set_entries_other absent rest, List.lookup_cons, beq_self_eq_true]

end Entries

section Start

theorem keys_of_start {env : Environment} {service : ChatEncryptionService}
    (started : start env = .ok service) : readKeys env = .ok service.keys := by
  unfold start at started
  cases keys : readKeys env with
  | error e => simp [keys] at started
  | ok keys' =>
    simp only [keys] at started
    split_ifs at started
    rw [← Except.ok.inj started]

/-- A service that starts holds every key that its list gives once. -/
theorem started_key {env : Environment} {service : ChatEncryptionService}
    (started : start env = .ok service) {keysText : JsString} {version : Int} {key : Key}
    (given : env.getEnv .chatEncryptionKeys = some keysText)
    (listed : ListsOnce keysText version key) : service.keys.lookup version = some key := by
  obtain ⟨before, entry, after, entries, lists, once⟩ := listed
  have same_parts : parts (unit ',') (trim keysText) = (before ++ entry :: after).map trim := by
    rw [parts_trim comma_dark, parts, entries]
  have nonempty : trim keysText ≠ [] := by
    intro nothing
    have empty : trim entry ∈ parts (unit ',') [] := by
      rw [← nothing, same_parts]
      exact List.mem_map_of_mem (List.mem_append_right before List.mem_cons_self)
    have entry_empty : trim entry = [] := by simpa [parts, trim_dark] using empty
    obtain ⟨keyRaw, read, _⟩ := read_listed lists
    simp [entry_empty, readEntry] at read
  have read := keys_of_start started
  simp only [readKeys, trimmedSetting, given, Option.map_some, Option.getD_some, ne_eq, nonempty,
    not_false_eq_true, ↓reduceIte, same_parts] at read
  exact set_entries_listed lists once read

end Start

section RoundTrip

theorem nullable_scalar (value : Option JsString) : nullable (some (scalar value)) = some value := by
  cases value <;> rfl

theorem read_content_object (content : Content) :
    readContent
        (.object [(js "text", scalar content.text), (js "imageUrl", scalar content.imageUrl)]) =
      some content := by
  have apart : (js "text" == js "imageUrl") = false := by decide
  simp [readContent, Json.member?, List.lookup_cons, apart, nullable_scalar]

variable {gcm : AesGcm} (inverts : gcm.Inverts)
include inverts

theorem decrypt_encrypt {old new : ChatEncryptionService} {iv : List UInt8}
    (random : iv.length = 12) (held : new.keys.lookup old.activeVersion = some old.activeKey)
    (plaintext : List (JsString × Option JsString)) :
    new.decrypt gcm (old.encrypt gcm iv plaintext) =
      some (.object (plaintext.map fun m => (m.1, scalar m.2))) := by
  have opened := inverts old.activeKey iv (toUtf8 (stringify plaintext)) random
  simp [ChatEncryptionService.decrypt, ChatEncryptionService.encrypt, held, of_to_base64, opened,
    of_to_utf8 (stringify_well_formed plaintext), parse_stringify]

theorem cipher_inverts {old new : ChatEncryptionService} {iv : List UInt8}
    (random : iv.length = 12) (held : new.keys.lookup old.activeVersion = some old.activeKey)
    (content : Content) :
    (new.cipher gcm).decrypt ((old.cipher gcm).encrypt iv content) = some content := by
  simp [ChatEncryptionService.cipher, decrypt_encrypt inverts random held, read_content_object]

end RoundTrip

end ChatEncryption
