import Linkly.ChatIds

/-!
Messages of the partner that a tab shows and then loses. All handlers but one extend the list; the
initial page replaces it, although live events and sync responses may have come in before.
-/
namespace ChatLoss
open ChatService ChatTab ChatClient ChatIds JsText TransitionRuns

/-- The partner's messages that the one state lists are listed by the other one. -/
def PartnerKept (y z : System) : Prop :=
  ∀ entry ∈ y.tab.allMessages, entry.sender = .partner →
    ∃ other ∈ z.tab.allMessages, other.id = entry.id ∧ other.sender = .partner

/-- What a packet puts in the place of the list, if it does so. -/
def replacement : Packet → Option (List ChatMessageView)
  | .initialReply messages => messages
  | _ => none

/-- A received initial page has every message of the partner that is listed before it. -/
def PageHasListed (y : System) : Event → Prop
  | .receive index _ => ∀ packet ∈ y.flight[index]?, ∀ messages ∈ replacement packet,
      ∀ entry ∈ y.tab.allMessages, entry.sender = .partner →
        ∃ view ∈ messages, view.id = entry.id ∧ view.senderUserId ≠ y.tab.userId
  | _ => True

instance (y : System) : ∀ e, Decidable (PageHasListed y e)
  | .receive _ _ => by
    dsimp only [PageHasListed]
    infer_instance
  | .send .. | .otherSend .. | .serve .. | .live .. | .lose _ | .connect | .disconnect
  | .requestOlder => isTrue trivial

theorem partner_kept_refl (y : System) : PartnerKept y y :=
  fun entry mem partner => ⟨entry, mem, rfl, partner⟩

theorem partner_kept_trans (x y z : System) (first : PartnerKept x y) (second : PartnerKept y z) :
    PartnerKept x z := by
  intro entry mem partner
  obtain ⟨other, mo, same, still⟩ := first entry mem partner
  obtain ⟨last, ml, same_last, kept⟩ := second other mo still
  exact ⟨last, ml, same_last.trans same, kept⟩

theorem kept_of_subset {y z : System}
    (listed : ∀ entry ∈ y.tab.allMessages, entry ∈ z.tab.allMessages) : PartnerKept y z :=
  fun entry mem partner => ⟨entry, listed entry mem, rfl, partner⟩

theorem kept_of_front {y z : System} {more : List TabMessage}
    (listed : z.tab.allMessages = y.tab.allMessages ++ more) : PartnerKept y z := by
  refine kept_of_subset fun entry mem => ?_
  rw [listed]
  exact List.mem_append_left _ mem

theorem kept_failed {y z : System} {clientMessageId : JsString}
    (marked : z.tab = markFailed y.tab clientMessageId) : PartnerKept y z := by
  intro entry mem partner
  rw [marked]
  refine ⟨_, List.mem_map_of_mem mem, ?_, ?_⟩ <;> split
  · rfl
  · rfl
  · exact partner
  · exact partner

theorem mapped_sender {userId : JsString} {now : Int} {payload : ApiChatMessage}
    {mapped : TabMessage} (done : mapApiMessage userId now payload = some mapped) :
    mapped.sender = .partner ↔ payload.senderUserId ≠ userId := by
  unfold mapApiMessage at done
  split at done
  · simp at done
  · rw [← Option.some.inj done]
    by_cases own : payload.senderUserId = userId <;> simp [own]

section Steps
variable {cipher : Cipher} {y z : System}

theorem kept_initial_iff (y : System) {messages : List ChatMessageView} (now : Int)
    (flight : List Packet) (filled : ∀ item ∈ messages.map apiMessage, item.id ≠ []) :
    PartnerKept y { y with tab := handleInitialPage now y.tab (messages.map apiMessage)
                           flight := flight } ↔
      ∀ entry ∈ y.tab.allMessages, entry.sender = .partner →
        ∃ view ∈ messages, view.id = entry.id ∧ view.senderUserId ≠ y.tab.userId := by
  refine forall₃_congr fun entry mem partner => ?_
  constructor
  · intro kept
    obtain ⟨other, mo, same, sender⟩ := kept
    obtain ⟨item, mi, done⟩ := List.mem_filterMap.mp mo
    obtain ⟨view, mv, rfl⟩ := List.mem_map.mp mi
    exact ⟨view, mv, (map_api_some done).1.symm.trans same, (mapped_sender done).mp sender⟩
  · intro sent
    obtain ⟨view, mv, same, sender⟩ := sent
    have mi := List.mem_map_of_mem (f := apiMessage) mv
    obtain ⟨mapped, done, same_id⟩ := map_api_filled y.tab.userId now (filled _ mi)
    exact ⟨mapped, List.mem_filterMap.mpr ⟨_, mi, done⟩, same_id.trans same,
      (mapped_sender done).mpr sender⟩

theorem receive_kept_iff (sound : Sound y) {index : Nat} {now : Int} {packet : Packet}
    (at_index : y.flight[index]? = some packet)
    (receives : Receives { y with flight := y.flight.eraseIdx index } now packet z) :
    PartnerKept y z ↔ PageHasListed y (.receive index now) := by
  have carries := sound.flight packet (List.mem_of_getElem? at_index)
  have asked : PageHasListed y (.receive index now) ↔ ∀ messages ∈ replacement packet,
      ∀ entry ∈ y.tab.allMessages, entry.sender = .partner →
        ∃ view ∈ messages, view.id = entry.id ∧ view.senderUserId ≠ y.tab.userId := by
    simp [PageHasListed, at_index]
  rw [asked]
  cases receives with
  | initialPage =>
    have page := kept_initial_iff y now (y.flight.eraseIdx index)
      (api_filled sound carries.stored)
    simpa [replacement] using page
  | @synced messages =>
    obtain ⟨more, listed⟩ := messages_sync now y.tab (messages.map apiMessage)
    exact iff_of_true (kept_of_front listed) (by simp [replacement])
  | @olderPage messages =>
    obtain ⟨more, listed⟩ := messages_older now y.tab (messages.map apiMessage)
    refine iff_of_true (kept_of_subset fun entry mem => ?_) (by simp [replacement])
    simp only [listed]
    exact List.mem_append_right _ mem
  | confirmed | noPage | noOlder =>
    exact iff_of_true (partner_kept_refl y) (by simp [replacement])
  | failed => exact iff_of_true (kept_failed rfl) (by simp [replacement])

theorem kept_of_same_tab (same : z.tab = y.tab) : PartnerKept y z :=
  kept_of_subset fun entry mem => by rwa [same]

theorem kept_lose (flight : List Packet) (packet : Packet) :
    PartnerKept y (lose { y with flight := flight } packet) := by
  cases packet with
  | postRequest body => exact kept_failed rfl
  | postReply ok id => exact kept_failed rfl
  | _ => exact partner_kept_refl y

theorem step_kept_iff {e : Event} (sound : Sound y) (moved : step cipher y e = some z) :
    PartnerKept y z ↔ PageHasListed y e := by
  cases step_cases moved with
  | sent =>
    obtain ⟨more, listed⟩ := messages_append y.tab _ true
    exact iff_of_true (kept_of_front listed) trivial
  | askedOlder | connected | disconnected | otherStored | otherRefused =>
    exact iff_of_true (partner_kept_refl y) trivial
  | @delivered index now job =>
    obtain ⟨more, listed⟩ := messages_incoming now (liveMessage job.message) y.tab
    exact iff_of_true (kept_of_front listed) trivial
  | served at_index serves =>
    have same := (serve_effect serves).1
    exact iff_of_true (kept_of_same_tab same) trivial
  | received at_index receives => exact receive_kept_iff sound at_index receives
  | lost => exact iff_of_true (kept_lose _ _) trivial

end Steps

theorem partner_kept_iff_page_has_listed (cipher : Cipher) {s : Store} (history : History s)
    (coupleId userId : JsString) (es : List Event) :
    EachLater (step cipher) PartnerKept (initial s coupleId userId) es ↔
      EachStep (step cipher) PageHasListed (initial s coupleId userId) es :=
  each_later_iff_each_step Sound partner_kept_refl partner_kept_trans
    (fun _ _ _ moved sound => sound_step sound moved)
    (fun _ _ _ moved sound => step_kept_iff sound moved) (sound_initial history coupleId userId)

def sampleMessage : ChatSendDto :=
  { coupleId := js "couple", senderUserId := none, kind := .text, text := some (js "hi")
    imageUrl := none, clientMessageId := none, sentAtMs := some 5 }

def sampleRow : ChatMessage := newRecord plainCipher sampleMessage (js "you") (sampleDraw "row-1")

/-- The page is read after the live message has been stored. -/
theorem late_page_keeps_live_message :
    EachLater (step plainCipher) PartnerKept (initial sampleHistory (js "couple") (js "me"))
      [.connect, .otherSend (js "you") sampleMessage (sampleDraw "row-1"), .live 0 6,
        .serve 0 (sampleDraw "row-1") [sampleRow], .receive 1 7] :=
  (partner_kept_iff_page_has_listed plainCipher sample_history _ _ _).mpr (by decide)

/-- The page is read before the live message is stored, and received after it. -/
theorem early_page_loses_live_message :
    ¬ ∀ cipher s, History s → ∀ coupleId userId es,
      EachLater (step cipher) PartnerKept (initial s coupleId userId) es := by
  intro every
  let front : List Event :=
    [.serve 0 (sampleDraw "-") [], .connect,
      .otherSend (js "you") sampleMessage (sampleDraw "row-1"), .live 0 6]
  have later := every plainCipher sampleHistory sample_history (js "couple") (js "me")
    (front ++ [.receive 0 7])
  have kept := later front [.receive 0 7] [] _ _ rfl rfl rfl
  obtain ⟨other, listed, _⟩ := kept _ List.mem_cons_self (by decide)
  exact List.not_mem_nil listed

end ChatLoss
