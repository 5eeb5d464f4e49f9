import Linkly.ChatEncryption

/-!
Messages after a change of the keys. A message stored under one list of keys is read under a later
one as long as that list still gives the key of its version.
-/
namespace KeyRotation
open JsText IsoDate ByteText SettingText ChatService ChatEncryption

/-- A call of fetchMessages that returns has the view wherever the page has the record, and the
    record is no reason for a call to fail. -/
def FetchedAs (cipher : Cipher) (record : ChatMessage) (view : ChatMessageView) : Prop :=
  (∀ s query rows views, fetchMessages cipher s query rows = .ok views →
    ∀ i : Nat, (rows.take query.limit)[i]? = some record → views[i]? = some view) ∧
  ∀ s query rows, s.isMember query.coupleId query.userId = true →
    (∀ m ∈ rows.take query.limit, m ≠ record → (cipher.decrypt m.payload).isSome) →
    ∃ views, fetchMessages cipher s query rows = .ok views

theorem fetched_as_of_decrypted {cipher : Cipher} {record : ChatMessage} {content : Content}
    (decrypted : cipher.decrypt record.payload = some content) :
    FetchedAs cipher record (toView record content.text content.imageUrl) := by
  have readable : decryptView cipher record =
      .ok (toView record content.text content.imageUrl) := by
    rw [decryptView, decrypted]
  constructor
  · intro s query rows views done i at_index
    exact fetch_messages_at cipher done readable at_index
  · intro s query rows member others
    apply fetch_messages_ok cipher member
    intro m mem
    by_cases same : m = record
    · rw [same, decrypted]
      rfl
    · exact others m mem same

/-- The view built from the payload is the one built from the record, whatever the texts are and
    whichever settings the old service was started with. -/
theorem rotation_keeps_messages_readable {gcm : AesGcm} (inverts : gcm.Inverts)
    {old new : ChatEncryptionService} {s t : Store} {payload : ChatSendDto} {draw : Draw}
    {view : ChatMessageView} (random : draw.iv.length = 12)
    (sent : createMessage (old.cipher gcm) s payload draw = .ok (view, t))
    {later : Environment} (started : start later = .ok new) {keysText : JsString}
    (given : later.getEnv .chatEncryptionKeys = some keysText)
    (listed : ListsOnce keysText old.activeVersion old.activeKey) :
    ∃ record, t.messages = s.messages ++ [record] ∧ FetchedAs (new.cipher gcm) record view := by
  obtain ⟨senderUserId, created⟩ := create_message_ok (old.cipher gcm) sent
  have held := started_key started given listed
  have decrypted : (new.cipher gcm).decrypt
      (newRecord (old.cipher gcm) payload senderUserId draw).payload =
        some ⟨payload.text, payload.imageUrl⟩ :=
    cipher_inverts inverts random held ⟨payload.text, payload.imageUrl⟩
  refine ⟨newRecord (old.cipher gcm) payload senderUserId draw, created.messages, ?_⟩
  rw [created.view_eq]
  exact fetched_as_of_decrypted decrypted

def sampleKey : Key := ⟨List.replicate 32 0xFF, by decide⟩

def sampleIv : List UInt8 := List.replicate 12 0

def samplePlaintext : List UInt8 := Utf8Text.toUtf8
  (JsonText.stringify [(js "text", some (js "hi")), (js "imageUrl", none)])

def sampleCiphertext : List UInt8 :=
  [188, 235, 25, 154, 181, 232, 226, 37, 48, 110, 44, 238, 208, 6, 189, 109, 14, 65, 52, 108, 109,
    119, 52, 147, 48, 19, 246, 18, 154]

def sampleTag : List UInt8 :=
  [183, 31, 185, 7, 57, 99, 177, 181, 120, 95, 84, 100, 237, 50, 10, 254]

/-- The answer of AES-256-GCM for one plaintext; it hides nothing else. -/
def sampleGcm : AesGcm where
  createCipheriv key iv plaintext :=
    if key = sampleKey ∧ iv = sampleIv ∧ plaintext = samplePlaintext then
      (sampleCiphertext, sampleTag)
    else (plaintext, [])
  createDecipheriv key iv tag ciphertext :=
    if tag = [] then some ciphertext
    else if key = sampleKey ∧ iv = sampleIv ∧ tag = sampleTag ∧ ciphertext = sampleCiphertext then
      some samplePlaintext
    else none

theorem sample_gcm_inverts : sampleGcm.Inverts := by
  intro key iv plaintext _
  by_cases sample : key = sampleKey ∧ iv = sampleIv ∧ plaintext = samplePlaintext
  · obtain ⟨rfl, rfl, rfl⟩ := sample
    simp [sampleGcm, sampleTag]
  · simp [sampleGcm, sample]

def settings (version keys : JsString) : Environment where
  config
    | .chatEncryptionKeyVersion => some version
    | .chatEncryptionKeys => some keys
    | .chatEncryptionKey => none
  process _ := none

def otherEntry : JsString := js "2:AQEBAQEBAQEBAQEBAQEBAQEBAQEBAQEBAQEBAQEBAQE="

/-- The first key in base64url. -/
def sampleCode : JsString := List.replicate 42 (unit '_') ++ js "8"

def sampleEntry : JsString := js "\t1 " ++ unit ':' :: (js " " ++ sampleCode ++ js "\n")

def rotatedKeys : JsString := otherEntry ++ unit ',' :: sampleEntry

def firstService : ChatEncryptionService := ⟨[(1, sampleKey)], 1, by decide⟩

def secondService : ChatEncryptionService :=
  ⟨[(1, sampleKey), (2, ⟨List.replicate 32 1, by decide⟩)], 2, by decide⟩

def sampleRecord : ChatMessage where
  id := js "m1"
  coupleId := js "couple"
  senderUserId := js "me"
  kind := .text
  ciphertext := js "vOsZmrXo4iUwbizu0Aa9bQ5BNGxtdzSTMBP2Epo="
  iv := js "AAAAAAAAAAAAAAAA"
  tag := js "tx+5BzljsbV4X1Rk7TIK/g=="
  keyVersion := 1
  thumbnailUrl := none
  createdAt := ⟨5, by decide⟩
  sentAtMs := 5

def emptyStore : Store := ⟨[⟨js "couple", js "me"⟩], [], []⟩

theorem rotated_lists_once : ListsOnce rotatedKeys 1 sampleKey := by
  have entries : rotatedKeys.splitOn (unit ',') = [otherEntry] ++ sampleEntry :: [] := by
    decide +kernel
  have written : sampleKey.WrittenAs sampleCode :=
    Or.inr ⟨urlDigit, by simp, [], by simp, by decide +kernel⟩
  have blank : ∀ u ∈ js " " ++ js "\n", isBlank u = true :=
    List.all_iff_forall_prop.mp (by decide)
  have listed : Lists sampleEntry 1 sampleKey :=
    ⟨js "\t1 ", js " ", sampleCode, js "\n", rfl, by decide, by decide, blank, written⟩
  exact ⟨[otherEntry], sampleEntry, [], entries, listed, by decide⟩

theorem rotated_message_readable : ∃ record, [sampleRecord] = [] ++ [record] ∧
    FetchedAs (secondService.cipher sampleGcm) record
      (toView sampleRecord (some (js "hi")) none) := by
  have sent : createMessage (firstService.cipher sampleGcm) emptyStore
      ⟨js "couple", some (js "me"), .text, some (js "hi"), none, none, none⟩
      ⟨js "m1", sampleIv, ⟨5, by decide⟩, false⟩ =
        .ok (toView sampleRecord (some (js "hi")) none,
          { emptyStore with messages := [sampleRecord] }) := by
    decide +kernel
  have started : start (settings (js "2") rotatedKeys) = .ok secondService := by rfl
  exact rotation_keeps_messages_readable sample_gcm_inverts (by decide) sent started rfl
    rotated_lists_once

end KeyRotation
