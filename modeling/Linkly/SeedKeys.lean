import Linkly.KeyRotation

/-!
The key with which the seed script encrypts its messages. The script reads the list of keys with a
loop of its own, which stops at the first entry of the active version.
-/
namespace SeedKeys
open JsText ByteText Utf8Text JsonText SettingText ChatService ChatEncryption

/-- A version that is not a number is `none`. -/
structure SeedKey where
  key : List UInt8
  version : Option Int
  deriving DecidableEq, Repr

def noKeyMessage : String :=
  "CHAT_ENCRYPTION_KEYS 또는 CHAT_ENCRYPTION_KEY 환경변수가 필요합니다. `pnpm init:env`를 실행하세요."

section Seed
variable (env : Setting → Option JsString)

def activeVersion : Option Int := parseInt ((env .chatEncryptionKeyVersion).getD (js "1"))

def keysEnv : JsString := ((env .chatEncryptionKeys).map trim).getD []

def legacyKey : JsString := ((env .chatEncryptionKey).map trim).getD []

/-- The bytes of a key text, however many they are. -/
def keyBytes (keyRaw : JsString) : List UInt8 :=
  let trimmed := trim keyRaw
  if isHex trimmed then ofHex (normalize trimmed) else ofBase64 (normalize trimmed)

/-- The key text of an entry of the version. -/
def keyTextOf (version : Int) (entry : JsString) : Option JsString :=
  (readEntry entry).bind fun pair => if pair.1 = version then some pair.2 else none

/-- What the loop over the list returns, if it does. -/
def listedKey : Option SeedKey :=
  if keysEnv env ≠ [] then
    (activeVersion env).bind fun version =>
      ((parts (unit ',') (keysEnv env)).findSome? (keyTextOf version)).map fun keyRaw =>
        { key := keyBytes keyRaw, version := some version }
  else none

def getEncryptionKey : Except String SeedKey :=
  match listedKey env with
  | some seedKey => .ok seedKey
  | none =>
    if legacyKey env ≠ [] then
      .ok { key := keyBytes (legacyKey env), version := activeVersion env }
    else .error noKeyMessage

end Seed

section Encryption
variable (gcm : AesGcm)

/-- There is no cipher for a key of another length. -/
def encryptPayload (plaintext : List (JsString × Option JsString)) (encKey : List UInt8)
    (keyVersion : Int) (iv : List UInt8) : Option EncryptedPayload :=
  if size : encKey.length = 32 then
    let (ciphertext, tag) := gcm.createCipheriv ⟨encKey, size⟩ iv (toUtf8 (stringify plaintext))
    some
      { ciphertext := toBase64 ciphertext
        iv := toBase64 iv
        tag := toBase64 tag
        keyVersion := keyVersion }
  else none

/-- The payload of a message of the seed; createMany takes no version that is not a number. -/
def seedPayload (seedKey : SeedKey) (content : Content) (iv : List UInt8) :
    Option EncryptedPayload :=
  seedKey.version.bind fun keyVersion =>
    encryptPayload gcm [(js "text", content.text), (js "imageUrl", content.imageUrl)] seedKey.key
      keyVersion iv

end Encryption

/-- The service holds the key of the seed under its version, and reads what the seed encrypts. -/
structure Holds (service : ChatEncryptionService) (seedKey : SeedKey) : Prop where
  held : ∃ version key, seedKey.version = some version ∧
    service.keys.lookup version = some key ∧ key.bytes = seedKey.key
  readable : ∀ gcm : AesGcm, gcm.Inverts → ∀ content iv payload, iv.length = 12 →
    seedPayload gcm seedKey content iv = some payload →
    (service.cipher gcm).decrypt payload = some content

/-- The active version is a number, and the first and the last entry of that version in the list,
    when there is one, give the same key. -/
def SingleReading (env : Setting → Option JsString) : Prop :=
  ∃ version, activeVersion env = some version ∧ (keysEnv env ≠ [] →
    let keyTexts := (parts (unit ',') (keysEnv env)).filterMap (keyTextOf version)
    keyTexts.head?.map keyBytes = keyTexts.getLast?.map keyBytes)

section Reading

theorem key_bytes_of_decode {keyRaw : JsString} {key : Key} (decoded : decodeKey keyRaw = .ok key) :
    key.bytes = keyBytes keyRaw := by
  have buffer : decodeKey keyRaw = if size : (keyBytes keyRaw).length = 32 then
      .ok ⟨keyBytes keyRaw, size⟩ else .error (.keyFormat (trim keyRaw).length) := rfl
  rw [buffer] at decoded
  split_ifs at decoded
  rw [← Except.ok.inj decoded]

/-- The last entry of a version is the one that counts for the service. -/
theorem set_entries_last {entries : List JsString} {keys result : Keys} (version : Int)
    (done : setEntries entries keys = .ok result) :
    (result.lookup version).map Key.bytes =
      ((entries.filterMap (keyTextOf version)).getLast?.map keyBytes).or
        ((keys.lookup version).map Key.bytes) := by
  induction entries generalizing keys with
  | nil =>
    cases done
    simp
  | cons entry entries ih =>
    rw [setEntries] at done
    cases read : readEntry entry with
    | none =>
      rw [read] at done
      rw [ih done, List.filterMap_cons_none (by simp [keyTextOf, read])]
    | some pair =>
      obtain ⟨number, keyRaw⟩ := pair
      rw [read] at done
      cases decoded : decodeKey keyRaw with
      | error e => simp [decoded] at done
      | ok key =>
        simp only [decoded] at done
        rw [ih done]
        by_cases same : version = number
        · subst same
          rw [List.filterMap_cons_some (b := keyRaw) (by simp [keyTextOf, read]),
            List.getLast?_cons, List.lookup_cons, beq_self_eq_true]
          cases (entries.filterMap (keyTextOf version)).getLast? <;>
            simp [key_bytes_of_decode decoded]
        · rw [List.filterMap_cons_none (by simp [keyTextOf, read, Ne.symm same]),
            List.lookup_cons, beq_false_of_ne same]

theorem find_key_text (entries : List JsString) (version : Int) :
    entries.findSome? (keyTextOf version) = (entries.filterMap (keyTextOf version)).head? :=
  (List.head?_filterMap ..).symm

theorem listed_version {env : Setting → Option JsString} {seedKey : SeedKey}
    (listed : listedKey env = some seedKey) : seedKey.version = activeVersion env := by
  unfold listedKey at listed
  split_ifs at listed
  obtain ⟨version, active, taken⟩ := Option.bind_eq_some_iff.mp listed
  obtain ⟨keyRaw, _, rfl⟩ := Option.map_eq_some_iff.mp taken
  exact active.symm

theorem seed_version {env : Setting → Option JsString} {seedKey : SeedKey}
    (seeded : getEncryptionKey env = .ok seedKey) : seedKey.version = activeVersion env := by
  unfold getEncryptionKey at seeded
  cases found : listedKey env with
  | some listed =>
    rw [found] at seeded
    rw [← Except.ok.inj seeded, listed_version found]
  | none =>
    simp only [found] at seeded
    split_ifs at seeded
    rw [← Except.ok.inj seeded]

/-- The first entry of the version is the one that counts for the seed. -/
theorem seed_key_listed {env : Setting → Option JsString} {seedKey : SeedKey} {version : Int}
    {keyRaw : JsString} (seeded : getEncryptionKey env = .ok seedKey)
    (active : activeVersion env = some version) (listed : keysEnv env ≠ [])
    (first : ((parts (unit ',') (keysEnv env)).filterMap (keyTextOf version)).head? =
      some keyRaw) : seedKey.key = keyBytes keyRaw := by
  have found : listedKey env = some { key := keyBytes keyRaw, version := some version } := by
    rw [listedKey, if_pos listed, active, Option.bind_some, find_key_text, first, Option.map_some]
  rw [getEncryptionKey, found] at seeded
  rw [← Except.ok.inj seeded]

theorem seed_key_legacy {env : Setting → Option JsString} {seedKey : SeedKey}
    (seeded : getEncryptionKey env = .ok seedKey) (unlisted : keysEnv env = []) :
    seedKey.key = keyBytes (legacyKey env) := by
  have not_found : listedKey env = none := by simp [listedKey, unlisted]
  simp only [getEncryptionKey, not_found] at seeded
  split_ifs at seeded
  rw [← Except.ok.inj seeded]

section Started
variable {env : Setting → Option JsString} {service : ChatEncryptionService}
  (started : start ⟨env, env⟩ = .ok service)
include started

theorem read_keys_started : (if keysEnv env ≠ [] then
      setEntries (parts (unit ',') (keysEnv env)) []
    else if legacyKey env ≠ [] then
      match decodeKey (legacyKey env) with
      | .error e => .error e
      | .ok key => .ok [((activeVersion env).getD 1, key)]
    else .ok []) = .ok service.keys := by
  have read := keys_of_start started
  simp only [readKeys, trimmedSetting, activeVersionOf, Environment.getEnv, Option.or_self]
    at read
  exact read

theorem active_started : service.activeVersion = (activeVersion env).getD 1 := by
  unfold start at started
  split at started
  · simp at started
  · split_ifs at started
    rw [← Except.ok.inj started]
    simp [activeVersionOf, Environment.getEnv, activeVersion]

theorem held_listed (listed : keysEnv env ≠ []) (version : Int) :
    (service.keys.lookup version).map Key.bytes =
      ((parts (unit ',') (keysEnv env)).filterMap (keyTextOf version)).getLast?.map keyBytes := by
  have read := read_keys_started started
  rw [if_pos listed] at read
  rw [set_entries_last version read]
  simp

theorem held_legacy (unlisted : keysEnv env = []) :
    ∃ key, service.keys = [((activeVersion env).getD 1, key)] ∧
      key.bytes = keyBytes (legacyKey env) := by
  have read := read_keys_started started
  simp only [unlisted, ne_eq, not_true_eq_false, ↓reduceIte] at read
  have active := service.active
  split_ifs at read
  · rw [← Except.ok.inj read] at active
    simp at active
  · cases decoded : decodeKey (legacyKey env) with
    | error e => simp [decoded] at read
    | ok key =>
      rw [decoded] at read
      exact ⟨key, (Except.ok.inj read).symm, key_bytes_of_decode decoded⟩

end Started

end Reading

section Holding

/-- A message of the seed is one of a service that holds only the key of the seed. -/
theorem seed_payload_readable {service : ChatEncryptionService} {seedKey : SeedKey} {version : Int}
    {key : Key} (numbered : seedKey.version = some version)
    (held : service.keys.lookup version = some key) (bytes : key.bytes = seedKey.key)
    {gcm : AesGcm} (inverts : gcm.Inverts) {content : Content} {iv : List UInt8}
    {payload : EncryptedPayload} (random : iv.length = 12)
    (encrypted : seedPayload gcm seedKey content iv = some payload) :
    (service.cipher gcm).decrypt payload = some content := by
  let sole : ChatEncryptionService := ⟨[(version, key)], version, by simp⟩
  have sole_key : sole.activeKey = key := by simp [sole, ChatEncryptionService.activeKey]
  have size : seedKey.key.length = 32 := bytes ▸ key.size
  have same_key : (⟨seedKey.key, size⟩ : Key) = key := by
    cases key
    simp_all
  have same_payload : payload = (sole.cipher gcm).encrypt iv content := by
    simp only [seedPayload, numbered, Option.bind_some, encryptPayload, size, ↓reduceDIte,
      same_key] at encrypted
    simp only [← Option.some.inj encrypted, ChatEncryptionService.cipher,
      ChatEncryptionService.encrypt, sole_key]
    rfl
  rw [same_payload]
  exact cipher_inverts inverts random (by rw [sole_key]; exact held) content

theorem holds_of_held {service : ChatEncryptionService} {seedKey : SeedKey} {version : Int}
    {key : Key} (numbered : seedKey.version = some version)
    (held : service.keys.lookup version = some key) (bytes : key.bytes = seedKey.key) :
    Holds service seedKey where
  held := ⟨version, key, numbered, held, bytes⟩
  readable _ inverts _ _ _ random encrypted :=
    seed_payload_readable numbered held bytes inverts random encrypted

/-- The two readings of one environment give the same key exactly when the active version is a
    number and the list does not repeat it with another key. -/
theorem seed_key_held_iff {env : Setting → Option JsString} {seedKey : SeedKey}
    {service : ChatEncryptionService} (seeded : getEncryptionKey env = .ok seedKey)
    (started : start ⟨env, env⟩ = .ok service) :
    Holds service seedKey ↔ SingleReading env := by
  have numbered := seed_version seeded
  constructor
  · intro holds
    obtain ⟨version, key, is_version, held, bytes⟩ := holds.held
    have active : activeVersion env = some version := by rw [← numbered, is_version]
    refine ⟨version, active, ?_⟩
    intro listed keyTexts
    have last := held_listed started listed version
    rw [held, Option.map_some, bytes] at last
    rw [← last]
    cases first : keyTexts.head? with
    | none =>
      rw [List.head?_eq_none_iff] at first
      simp [keyTexts, first] at last
    | some keyRaw =>
      rw [Option.map_some, seed_key_listed seeded active listed first]
  · intro single
    obtain ⟨version, active, same⟩ := single
    by_cases listed : keysEnv env = []
    · obtain ⟨key, keys, bytes⟩ := held_legacy started listed
      have held : service.keys.lookup version = some key := by simp [keys, active]
      apply holds_of_held (numbered.trans active) held
      rw [bytes, seed_key_legacy seeded listed]
    · have there := service.active
      rw [active_started started, active, Option.getD_some, Option.isSome_iff_exists] at there
      obtain ⟨key, held⟩ := there
      have last := held_listed started listed version
      rw [held, Option.map_some, ← same listed, eq_comm, Option.map_eq_some_iff] at last
      obtain ⟨keyRaw, first, bytes⟩ := last
      apply holds_of_held (numbered.trans active) held
      rw [← bytes, seed_key_listed seeded active listed first]

def environment (version keys legacy : Option JsString) : Setting → Option JsString
  | .chatEncryptionKeyVersion => version
  | .chatEncryptionKeys => keys
  | .chatEncryptionKey => legacy

/-- An entry of version 1 with a key of equal hexadecimal digits. -/
def hexEntry (digit : Char) : JsString := js "1:" ++ List.replicate 64 (unit digit)

def hexKey (nibble : UInt8) : Key := ⟨List.replicate 32 nibble, by simp⟩

/-- The version is repeated with the same key, in another case of the digits. -/
def repeatedEntry : Setting → Option JsString :=
  environment none (some (hexEntry 'f' ++ unit ',' :: hexEntry 'F')) none

theorem repeated_entry_held :
    Holds ⟨[(1, hexKey 0xFF), (1, hexKey 0xFF)], 1, by decide⟩
      ⟨List.replicate 32 0xFF, some 1⟩ := by
  have seeded : getEncryptionKey repeatedEntry = .ok ⟨List.replicate 32 0xFF, some 1⟩ := by
    decide +kernel
  have started : start ⟨repeatedEntry, repeatedEntry⟩ =
      .ok ⟨[(1, hexKey 0xFF), (1, hexKey 0xFF)], 1, by decide⟩ := by rfl
  have single : SingleReading repeatedEntry :=
    ⟨1, by decide +kernel, fun _ => by decide +kernel⟩
  exact (seed_key_held_iff seeded started).mpr single

/-- The version is repeated with another key. -/
def replacedEntry : Setting → Option JsString :=
  environment none (some (hexEntry '0' ++ unit ',' :: hexEntry 'f')) none

theorem replaced_entry_differs :
    ¬ ∀ (env : Setting → Option JsString) (seedKey : SeedKey) (service : ChatEncryptionService),
      getEncryptionKey env = .ok seedKey → start ⟨env, env⟩ = .ok service →
        Holds service seedKey := by
  intro every
  have seeded : getEncryptionKey replacedEntry = .ok ⟨List.replicate 32 0, some 1⟩ := by
    decide +kernel
  have started : start ⟨replacedEntry, replacedEntry⟩ =
      .ok ⟨[(1, hexKey 0xFF), (1, hexKey 0)], 1, by decide⟩ := by rfl
  obtain ⟨version, key, numbered, held, bytes⟩ := (every _ _ _ seeded started).held
  obtain rfl := Option.some.inj numbered
  rw [List.lookup_cons_self] at held
  rw [← Option.some.inj held] at bytes
  revert bytes
  decide

end Holding

end SeedKeys
