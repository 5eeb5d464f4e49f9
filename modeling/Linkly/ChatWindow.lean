import Linkly.ChatTab
import Linkly.TransitionRuns

/-!
The part of the message list that the chat tab shows, and where the tab scrolls it. React commits a
render after each handler, and the layout effect runs when the render has changed what it depends
on. The sizes of the list come from the browser and may be anything.
-/
namespace ChatWindow
open ChatService ChatTab JsText TransitionRuns

def SCROLL_THRESHOLD : Nat := 80

/-- The list as the browser lays it out. -/
structure Layout where
  scrollHeight : Nat
  clientHeight : Nat
  deriving DecidableEq, Repr

/-- What becomes of a value that is assigned to `scrollTop`. -/
def Layout.clamp (list : Layout) (value : Int) : Nat :=
  (min value (list.scrollHeight - list.clientHeight)).toNat

structure Window where
  tab : Tab
  loaded : Bool
  visible : Bool
  startIndex : Nat
  scrollTop : Nat
  isPrepending : Bool
  previousScrollHeight : Option Nat
  previousMessageCount : Nat
  hasInitialScroll : Bool
  deriving DecidableEq, Repr

def mounted (coupleId userId : JsString) (visible : Bool) : Window :=
  ⟨ChatTab.mounted coupleId userId, false, visible, 0, 0, false, none, 0, false⟩

def messageCount (y : Window) : Nat := (sortedMessages y.tab).length

def visibleMessages (y : Window) : List TabMessage := (sortedMessages y.tab).drop y.startIndex

section Handlers
variable (list : Layout)

/-- What follows the prepending of messages: the scroll position moves with what is in view. -/
def restorePosition (y : Window) : Window :=
  match y.isPrepending, y.previousScrollHeight with
  | true, some previousHeight =>
    { y with
      scrollTop := list.clamp (y.scrollTop + (list.scrollHeight - previousHeight))
      previousScrollHeight := none
      isPrepending := false }
  | _, _ => y

def scrollToEnd (y : Window) : Window := { y with scrollTop := list.clamp list.scrollHeight }

def layoutEffect (before : Window) : Window :=
  let y := restorePosition list before
  let didAppend := messageCount y > y.previousMessageCount ∧ y.isPrepending = false
  let scrolled :=
    if y.hasInitialScroll = false ∧ y.visible ∧ 0 < list.clientHeight ∧ 0 < messageCount y then
      { scrollToEnd list y with hasInitialScroll := true }
    else if didAppend then scrollToEnd list y
    else y
  { scrolled with previousMessageCount := messageCount y }

/-- The render after a handler. -/
def commit (before after : Window) : Window :=
  if after.startIndex = before.startIndex ∧ messageCount after = messageCount before ∧
      after.visible = before.visible then after
  else layoutEffect list after

/-- The handler up to the `await`; `height` is the height of the list at that time. -/
def fetchOlder (height : Nat) (y : Window) : Window :=
  match fetchOlderFromServer y.tab with
  | none => y
  | some _ =>
    { y with
      tab := { y.tab with isFetchingOlder := true }
      isPrepending := true
      previousScrollHeight := some height }

def loadOlderMessages (height : Nat) (y : Window) : Window :=
  if y.isPrepending then y
  else if 0 < y.startIndex then
    { y with
      isPrepending := true
      previousScrollHeight := some height
      startIndex := y.startIndex - LOAD_BATCH }
  else if y.tab.hasMoreServer then fetchOlder height y
  else y

def handleScroll (scrollTop height : Nat) (y : Window) : Window :=
  let scrolled := { y with scrollTop := scrollTop }
  if scrollTop ≤ SCROLL_THRESHOLD then loadOlderMessages height scrolled else scrolled

def handleInitial (now : Int) (items : List ApiChatMessage) (y : Window) : Window :=
  let tab := handleInitialPage now y.tab items
  { y with
    tab := tab
    loaded := true
    startIndex := tab.allMessages.length - INITIAL_BATCH
    hasInitialScroll := false }

/-- Nothing new has come when the list stays as long as it was. -/
def handleOlder (now : Int) (items : List ApiChatMessage) (y : Window) : Window :=
  let tab := handleOlderPage now y.tab items
  { y with
    tab := tab
    isPrepending := y.isPrepending && decide (y.tab.allMessages.length < tab.allMessages.length) }

def handleOlderFailed (y : Window) : Window :=
  { y with tab := { y.tab with isFetchingOlder := false }, isPrepending := false }

end Handlers

/-- `scroll` is the user's, with the height of the list at that time. -/
inductive Event where
  | incoming (now : Int) (payload : ApiChatMessage)
  | sync (now : Int) (items : List ApiChatMessage)
  | initial (now : Int) (items : List ApiChatMessage)
  | send (draft : Draft) (clientMessageId : JsString) (now : Int)
  | sendFailed (clientMessageId : JsString)
  | scroll (scrollTop height : Nat)
  | older (now : Int) (items : List ApiChatMessage)
  | olderFailed
  | switchTab (visible : Bool)

/-- What the handler of an event does before the render. -/
def handle (y : Window) : Event → Option Window
  | .incoming now payload => some { y with tab := handleIncomingMessage now y.tab payload }
  | .sync now items => some { y with tab := handleSyncResponse now y.tab items }
  | .initial now items => if y.loaded then none else some (handleInitial now items y)
  | .send draft clientMessageId now =>
    some { y with tab := showDraft y.tab draft clientMessageId now }
  | .sendFailed clientMessageId => some { y with tab := markFailed y.tab clientMessageId }
  | .scroll scrollTop height => some (handleScroll scrollTop height y)
  | .older now items => if y.tab.isFetchingOlder then some (handleOlder now items y) else none
  | .olderFailed => if y.tab.isFetchingOlder then some (handleOlderFailed y) else none
  | .switchTab visible => some { y with visible := visible }

/-- An event, with the layout of the list after the render. -/
def step (y : Window) (e : Event × Layout) : Option Window :=
  (handle y e.1).map (commit e.2 y)

section Sorting

theorem sorted_sublist {a b : List TabMessage} (within : a.Sublist b) :
    (a.insertionSort fun x y => x.sentAtMs ≤ y.sentAtMs).Sublist
      (b.insertionSort fun x y => x.sentAtMs ≤ y.sentAtMs) := by
  induction within with
  | slnil => exact List.Sublist.refl _
  | cons m _ ih => exact ih.trans (List.sublist_orderedInsert m _)
  | cons_cons m _ ih =>
    have : IsTrans TabMessage fun x y => x.sentAtMs ≤ y.sentAtMs := ⟨fun _ _ _ => le_trans⟩
    have : Std.Total fun x y : TabMessage => x.sentAtMs ≤ y.sentAtMs := ⟨fun _ _ => le_total _ _⟩
    exact ih.orderedInsert_sublist m (List.pairwise_insertionSort _ _)

theorem count_eq (y : Window) : messageCount y = y.tab.allMessages.length :=
  List.length_insertionSort _ _

theorem sorted_failed (tab : Tab) (clientMessageId : JsString) :
    (sortedMessages (markFailed tab clientMessageId)).map TabMessage.id =
      (sortedMessages tab).map TabMessage.id := by
  unfold sortedMessages markFailed
  rw [← List.map_insertionSort (r := fun a b : TabMessage => a.sentAtMs ≤ b.sentAtMs),
    List.map_map]
  · refine List.map_congr_left fun m _ => ?_
    simp only [Function.comp_apply]
    split <;> rfl
  · intro a _ b _
    split <;> split <;> exact Iff.rfl

/-- Every message that was listed still is, and in the same order. -/
def Grows (a b : Tab) : Prop :=
  ((sortedMessages a).map TabMessage.id).Sublist ((sortedMessages b).map TabMessage.id)

theorem grows_sublist {a b : Tab} (within : a.allMessages.Sublist b.allMessages) : Grows a b :=
  (sorted_sublist within).map _

theorem grows_same {a b : Tab} (same : b.allMessages = a.allMessages) : Grows a b := by
  apply grows_sublist
  rw [same]

theorem grows_appended {a b : Tab} (appended : ∃ more, b.allMessages = a.allMessages ++ more) :
    Grows a b := by
  obtain ⟨more, same⟩ := appended
  apply grows_sublist
  rw [same]
  exact List.sublist_append_left _ _

theorem grows_failed (tab : Tab) (clientMessageId : JsString) :
    Grows tab (markFailed tab clientMessageId) := by
  unfold Grows
  rw [sorted_failed]

end Sorting

section Fetching
variable {tab : Tab}

theorem append_fetching {next : TabMessage} {isOptimistic : Bool} :
    (appendMessage tab next isOptimistic).isFetchingOlder = tab.isFetchingOlder := by
  unfold appendMessage
  split <;> rfl

theorem incoming_fetching (now : Int) (payload : ApiChatMessage) :
    (handleIncomingMessage now tab payload).isFetchingOlder = tab.isFetchingOlder := by
  rcases incoming_cases now payload tab with same | ⟨mapped, _, appended⟩
  · rw [same]
  · rw [appended, append_fetching]

theorem sync_fetching (now : Int) (items : List ApiChatMessage) :
    (handleSyncResponse now tab items).isFetchingOlder = tab.isFetchingOlder := by
  induction items generalizing tab with
  | nil => rfl
  | cons item rest ih => exact ih.trans (incoming_fetching now item)

end Fetching

section Commits
variable {list : Layout} {before y z : Window}

/-- What the layout effect leaves as it is. -/
structure Untouched (y z : Window) : Prop where
  tab : z.tab = y.tab
  loaded : z.loaded = y.loaded
  visible : z.visible = y.visible
  startIndex : z.startIndex = y.startIndex

theorem restore_untouched : Untouched y (restorePosition list y) := by
  unfold restorePosition
  split <;> exact ⟨rfl, rfl, rfl, rfl⟩

theorem effect_untouched : Untouched y (layoutEffect list y) := by
  have restored : Untouched y (restorePosition list y) := restore_untouched
  unfold layoutEffect
  dsimp only
  split_ifs <;>
    exact ⟨restored.tab, restored.loaded, restored.visible, restored.startIndex⟩

theorem commit_untouched : Untouched y (commit list before y) := by
  unfold commit
  split
  · exact ⟨rfl, rfl, rfl, rfl⟩
  · exact effect_untouched

theorem untouched_count (untouched : Untouched y z) : messageCount z = messageCount y := by
  unfold messageCount
  rw [untouched.tab]

theorem untouched_shown (untouched : Untouched y z) : visibleMessages z = visibleMessages y := by
  unfold visibleMessages
  rw [untouched.tab, untouched.startIndex]

/-- The height of the list is known while messages are prepended. -/
def Measured (y : Window) : Prop := y.isPrepending = true → y.previousScrollHeight.isSome

theorem restored_idle (measured : Measured y) : (restorePosition list y).isPrepending = false := by
  unfold restorePosition
  cases prepending : y.isPrepending with
  | false => simp [prepending]
  | true =>
    obtain ⟨height, known⟩ := Option.isSome_iff_exists.mp (measured prepending)
    simp [known]

theorem effect_idle (measured : Measured y) :
    (layoutEffect list y).isPrepending = false ∧
      (layoutEffect list y).previousMessageCount = messageCount y := by
  have idle : (restorePosition list y).isPrepending = false := restored_idle measured
  have same : messageCount (restorePosition list y) = messageCount y :=
    untouched_count restore_untouched
  unfold layoutEffect
  dsimp only
  split_ifs <;> exact ⟨idle, same⟩

end Commits

section Handling
variable {y z : Window} {e : Event}

/-- What a handler does to the window, the initial page apart. -/
structure Handled (y z : Window) : Prop where
  loaded : z.loaded = y.loaded
  grows : Grows y.tab z.tab
  startIndex : z.startIndex ≤ y.startIndex
  count : z.previousMessageCount = y.previousMessageCount

theorem fetch_older_handled (height : Nat) : Handled y (fetchOlder height y) := by
  unfold fetchOlder
  split
  · exact ⟨rfl, grows_same rfl, le_rfl, rfl⟩
  · exact ⟨rfl, grows_same rfl, le_rfl, rfl⟩

theorem load_older_handled (height : Nat) : Handled y (loadOlderMessages height y) := by
  unfold loadOlderMessages
  split_ifs
  · exact ⟨rfl, grows_same rfl, le_rfl, rfl⟩
  · exact ⟨rfl, grows_same rfl, Nat.sub_le _ _, rfl⟩
  · exact fetch_older_handled height
  · exact ⟨rfl, grows_same rfl, le_rfl, rfl⟩

theorem handled_event (done : handle y e = some z) (later : ∀ now items, e ≠ .initial now items) :
    Handled y z := by
  cases e with
  | incoming now payload =>
    cases done
    exact ⟨rfl, grows_appended (messages_incoming now payload y.tab), le_rfl, rfl⟩
  | sync now items =>
    cases done
    exact ⟨rfl, grows_appended (messages_sync now y.tab items), le_rfl, rfl⟩
  | initial now items => exact absurd rfl (later now items)
  | send draft clientMessageId now =>
    cases done
    exact ⟨rfl, grows_appended (messages_append _ _ _), le_rfl, rfl⟩
  | sendFailed clientMessageId =>
    cases done
    exact ⟨rfl, grows_failed _ _, le_rfl, rfl⟩
  | scroll scrollTop height =>
    cases done
    unfold handleScroll
    dsimp only
    split
    · have older : Handled { y with scrollTop := scrollTop }
          (loadOlderMessages height { y with scrollTop := scrollTop }) := load_older_handled height
      exact ⟨older.loaded, older.grows, older.startIndex, older.count⟩
    · exact ⟨rfl, grows_same rfl, le_rfl, rfl⟩
  | older now items =>
    simp only [handle, Option.ite_none_right_eq_some, Option.some.injEq] at done
    obtain ⟨_, rfl⟩ := done
    exact ⟨rfl, grows_sublist (List.sublist_append_right _ _), le_rfl, rfl⟩
  | olderFailed =>
    simp only [handle, Option.ite_none_right_eq_some, Option.some.injEq] at done
    obtain ⟨_, rfl⟩ := done
    exact ⟨rfl, grows_same rfl, le_rfl, rfl⟩
  | switchTab visible =>
    cases done
    exact ⟨rfl, grows_same rfl, le_rfl, rfl⟩

/-- Messages are prepended only while a request for older ones is under way, or in a render that
    is about to come. -/
def Busy (y z : Window) : Prop :=
  z.isPrepending = true → z.previousScrollHeight.isSome ∧
    (z.tab.isFetchingOlder = true ∨ z.startIndex ≠ y.startIndex ∨ messageCount z ≠ messageCount y)

def Idle (y : Window) : Prop :=
  y.isPrepending = true → y.previousScrollHeight.isSome ∧ y.tab.isFetchingOlder = true

theorem busy_of_idle (idle : Idle y) (prepending : z.isPrepending = y.isPrepending)
    (height : z.previousScrollHeight = y.previousScrollHeight)
    (fetching : z.tab.isFetchingOlder = y.tab.isFetchingOlder) : Busy y z := by
  intro busy
  obtain ⟨known, under_way⟩ := idle (prepending ▸ busy)
  exact ⟨height ▸ known, Or.inl (fetching ▸ under_way)⟩

theorem load_older_busy (idle : Idle y) (height : Nat) : Busy y (loadOlderMessages height y) := by
  unfold loadOlderMessages
  split_ifs with prepending some_left more
  · exact busy_of_idle idle rfl rfl rfl
  · intro _
    refine ⟨rfl, Or.inr (Or.inl ?_)⟩
    simp only [LOAD_BATCH]
    omega
  · unfold fetchOlder
    split
    · exact busy_of_idle idle rfl rfl rfl
    · exact fun _ => ⟨rfl, Or.inl rfl⟩
  · exact busy_of_idle idle rfl rfl rfl

theorem busy_event (idle : Idle y) (done : handle y e = some z) : Busy y z := by
  cases e with
  | incoming now payload =>
    cases done
    exact busy_of_idle idle rfl rfl (incoming_fetching now payload)
  | sync now items =>
    cases done
    exact busy_of_idle idle rfl rfl (sync_fetching now items)
  | initial now items =>
    simp only [handle, Option.ite_none_left_eq_some, Option.some.injEq] at done
    obtain ⟨_, rfl⟩ := done
    exact busy_of_idle idle rfl rfl rfl
  | send draft clientMessageId now =>
    cases done
    exact busy_of_idle idle rfl rfl append_fetching
  | sendFailed clientMessageId =>
    cases done
    exact busy_of_idle idle rfl rfl rfl
  | scroll scrollTop height =>
    cases done
    unfold handleScroll
    dsimp only
    split
    · have idle' : Idle { y with scrollTop := scrollTop } := idle
      exact load_older_busy idle' height
    · exact busy_of_idle idle rfl rfl rfl
  | older now items =>
    simp only [handle, Option.ite_none_right_eq_some, Option.some.injEq] at done
    obtain ⟨_, rfl⟩ := done
    intro busy
    simp only [handleOlder, Bool.and_eq_true, decide_eq_true_eq] at busy
    refine ⟨(idle busy.1).1, Or.inr (Or.inr ?_)⟩
    rw [count_eq, count_eq]
    exact (Nat.ne_of_lt busy.2).symm
  | olderFailed =>
    simp only [handle, Option.ite_none_right_eq_some, Option.some.injEq] at done
    obtain ⟨_, rfl⟩ := done
    intro busy
    simp [handleOlderFailed] at busy
  | switchTab visible =>
    cases done
    exact busy_of_idle idle rfl rfl rfl

end Handling

section Runs
variable {y z : Window} {e : Event × Layout}

structure Sound (y : Window) : Prop where
  idle : Idle y
  counted : y.previousMessageCount = messageCount y
  enough : y.startIndex ≤ messageCount y - INITIAL_BATCH

theorem grows_count {y z : Window} (grows : Grows y.tab z.tab) :
    messageCount y ≤ messageCount z := by
  have longer := grows.length_le
  simpa only [List.length_map, messageCount] using longer

theorem handled_enough {z : Window} (sound : Sound y) (done : handle y e.1 = some z) :
    z.startIndex ≤ messageCount z - INITIAL_BATCH ∧
      z.previousMessageCount = y.previousMessageCount := by
  by_cases first : ∃ now items, e.1 = .initial now items
  · obtain ⟨now, items, same⟩ := first
    rw [same] at done
    simp only [handle, Option.ite_none_left_eq_some, Option.some.injEq] at done
    obtain ⟨_, rfl⟩ := done
    rw [count_eq]
    exact ⟨le_rfl, rfl⟩
  · have handled : Handled y z := by
      apply handled_event done
      intro now items same
      exact first ⟨now, items, same⟩
    have more := grows_count handled.grows
    have before := sound.enough
    have less := handled.startIndex
    exact ⟨by omega, handled.count⟩

theorem sound_step (moved : step y e = some z) (sound : Sound y) : Sound z := by
  obtain ⟨w, done, rfl⟩ := Option.map_eq_some_iff.mp moved
  have busy := busy_event sound.idle done
  obtain ⟨enough, count⟩ := handled_enough sound done
  have untouched : Untouched w (commit e.2 y w) := commit_untouched
  refine ⟨?_, ?_, ?_⟩
  · unfold commit
    split
    · rename_i same
      intro prepending
      obtain ⟨known, under_way | moved | grown⟩ := busy prepending
      · exact ⟨known, under_way⟩
      · exact absurd same.1 moved
      · exact absurd same.2.1 grown
    · intro prepending
      rw [(effect_idle fun busy_now => (busy busy_now).1).1] at prepending
      cases prepending
  · rw [untouched_count untouched]
    unfold commit
    split
    · rename_i same
      rw [count, sound.counted, same.2.1]
    · exact (effect_idle fun busy_now => (busy busy_now).1).2
  · rw [untouched_count untouched, untouched.startIndex]
    exact enough

theorem sound_mounted (coupleId userId : JsString) (visible : Bool) :
    Sound (mounted coupleId userId visible) :=
  ⟨by simp [Idle, mounted], rfl, Nat.zero_le _⟩

theorem run_sound {coupleId userId : JsString} {visible : Bool} {es : List (Event × Layout)}
    (reached : run step (mounted coupleId userId visible) es = some y) : Sound y :=
  run_keeps Sound (fun _ _ _ => sound_step) reached (sound_mounted coupleId userId visible)

/-- The messages on display, by their ids. -/
def shownIds (y : Window) : List JsString := (visibleMessages y).map TabMessage.id

theorem shown_step (loaded : y.loaded = true) (moved : step y e = some z) :
    z.loaded = true ∧ (shownIds y).Sublist (shownIds z) := by
  obtain ⟨w, done, rfl⟩ := Option.map_eq_some_iff.mp moved
  have untouched : Untouched w (commit e.2 y w) := commit_untouched
  have handled : Handled y w := by
    apply handled_event done
    intro now items same
    simp [same, handle, loaded] at done
  refine ⟨untouched.loaded.trans (handled.loaded.trans loaded), ?_⟩
  unfold shownIds
  rw [untouched_shown untouched]
  unfold visibleMessages
  rw [List.map_drop, List.map_drop]
  exact (handled.grows.drop y.startIndex).trans
    (List.drop_sublist_drop_left _ handled.startIndex)

theorem shown_run {es : List (Event × Layout)} (loaded : y.loaded = true)
    (reached : run step y es = some z) : (shownIds y).Sublist (shownIds z) := by
  induction es generalizing y with
  | nil =>
    cases reached
    exact List.Sublist.refl _
  | cons e rest ih =>
    obtain ⟨next, once, later⟩ := run_cons_iff.mp reached
    obtain ⟨still, first⟩ := shown_step loaded once
    exact first.trans (ih still later)

/-- The user scrolls to the top of the list. -/
def ScrollsUp (e : Event × Layout) : Prop :=
  ∃ scrollTop height, e.1 = .scroll scrollTop height ∧ scrollTop ≤ SCROLL_THRESHOLD

theorem not_prepending (sound : Sound y) (idle : y.tab.isFetchingOlder = false) :
    y.isPrepending = false := by
  cases prepending : y.isPrepending with
  | false => rfl
  | true =>
    have under_way := (sound.idle prepending).2
    rw [idle] at under_way
    cases under_way

/-- Scrolling up shows more of the list, and at its start asks the server for more. -/
theorem scroll_up (sound : Sound y) (idle : y.tab.isFetchingOlder = false) (up : ScrollsUp e)
    (moved : step y e = some z) :
    (0 < y.startIndex → z.startIndex = y.startIndex - LOAD_BATCH ∧
        z.tab.isFetchingOlder = false) ∧
      (y.startIndex = 0 → z.tab.isFetchingOlder = true ∨ y.tab.hasMoreServer = false ∨
        y.tab.allMessages = []) := by
  obtain ⟨scrollTop, height, event, near⟩ := up
  obtain ⟨w, done, rfl⟩ := Option.map_eq_some_iff.mp moved
  have untouched : Untouched w (commit e.2 y w) := commit_untouched
  rw [untouched.startIndex, untouched.tab]
  rw [event] at done
  obtain rfl := Option.some.inj done
  simp only [handleScroll, near, if_true, loadOlderMessages, not_prepending sound idle,
    Bool.false_eq_true, if_false]
  constructor
  · intro some_left
    rw [if_pos some_left]
    exact ⟨rfl, idle⟩
  · intro none_left
    rw [if_neg (by omega)]
    cases more : y.tab.hasMoreServer with
    | false => exact Or.inr (Or.inl rfl)
    | true =>
      simp only [if_true, fetchOlder, fetchOlderFromServer, more, idle]
      cases listed : (sortedMessages y.tab).head? with
      | some oldest => exact Or.inl rfl
      | none =>
        right
        right
        have count := count_eq y
        rw [messageCount, List.head?_eq_none_iff.mp listed] at count
        exact List.length_eq_zero_iff.mp count.symm

theorem scroll_up_index (up : ScrollsUp e) (moved : step y e = some z) :
    z.startIndex ≤ y.startIndex := by
  obtain ⟨scrollTop, height, event, _⟩ := up
  obtain ⟨w, done, rfl⟩ := Option.map_eq_some_iff.mp moved
  have untouched : Untouched w (commit e.2 y w) := commit_untouched
  rw [untouched.startIndex]
  refine (handled_event done ?_).startIndex
  intro now items same
  simp [event] at same

theorem scrolls_up_show_all {es : List (Event × Layout)} (sound : Sound y)
    (idle : y.tab.isFetchingOlder = false ∨ y.startIndex = 0) (up : ∀ e ∈ es, ScrollsUp e)
    (enough : y.startIndex ≤ LOAD_BATCH * es.length) (reached : run step y es = some z) :
    z.startIndex = 0 := by
  induction es generalizing y with
  | nil =>
    cases reached
    simpa using enough
  | cons e rest ih =>
    obtain ⟨next, once, later⟩ := run_cons_iff.mp reached
    have first := up e List.mem_cons_self
    have rest_up : ∀ e ∈ rest, ScrollsUp e := fun e mem => up e (List.mem_cons_of_mem _ mem)
    rw [List.length_cons] at enough
    by_cases none_left : y.startIndex = 0
    · have still : next.startIndex = 0 := by
        have := scroll_up_index first once
        omega
      exact ih (sound_step once sound) (Or.inr still) rest_up (by omega) later
    · have free := idle.resolve_right none_left
      obtain ⟨less, free_still⟩ := (scroll_up sound free first once).1 (by omega)
      refine ih (sound_step once sound) (Or.inl free_still) rest_up ?_ later
      rw [less]
      simp only [LOAD_BATCH] at enough ⊢
      omega

theorem effect_to_end {list : Layout} (measured : Measured y)
    (grown : y.previousMessageCount < messageCount y) :
    (layoutEffect list y).scrollTop = list.clamp list.scrollHeight := by
  have idle : (restorePosition list y).isPrepending = false := restored_idle measured
  have count : messageCount (restorePosition list y) = messageCount y :=
    untouched_count restore_untouched
  have previous : (restorePosition list y).previousMessageCount = y.previousMessageCount := by
    unfold restorePosition
    split <;> rfl
  unfold layoutEffect
  simp only [idle, count, previous, grown, and_self, if_true]
  split_ifs <;> rfl

/-- Of the handlers after the initial page, only that of a scroll brings more into view. -/
theorem handle_reveals {w : Window} {e : Event} (done : handle y e = some w)
    (loaded : w.loaded = y.loaded) (less : w.startIndex < y.startIndex) :
    ∃ scrollTop height, e = .scroll scrollTop height ∧
      w = { y with
        scrollTop := scrollTop
        isPrepending := true
        previousScrollHeight := some height
        startIndex := y.startIndex - LOAD_BATCH } := by
  cases e with
  | incoming | sync | send | sendFailed | switchTab =>
    cases done
    exact absurd less (Nat.lt_irrefl _)
  | initial now items =>
    simp only [handle, Option.ite_none_left_eq_some, Option.some.injEq] at done
    obtain ⟨fresh, rfl⟩ := done
    exact absurd loaded.symm fresh
  | older | olderFailed =>
    simp only [handle, Option.ite_none_right_eq_some, Option.some.injEq] at done
    obtain ⟨_, rfl⟩ := done
    exact absurd less (Nat.lt_irrefl _)
  | scroll scrollTop height =>
    refine ⟨scrollTop, height, rfl, ?_⟩
    obtain rfl := Option.some.inj done
    simp only [handleScroll, loadOlderMessages, fetchOlder] at less ⊢
    split at less
    · split at less
      · exact absurd less (Nat.lt_irrefl _)
      · split at less
        · rename_i near idle some_left
          rw [if_pos near, if_neg idle, if_pos some_left]
        · split at less
          · split at less <;> exact absurd less (Nat.lt_irrefl _)
          · exact absurd less (Nat.lt_irrefl _)
    · exact absurd less (Nat.lt_irrefl _)

end Runs

/-- The newest messages are on display, what has been on display stays so, and scrolling up shows
    all that is loaded and then asks for more. -/
theorem window_reaches_back {coupleId userId : JsString} {visible : Bool}
    {es : List (Event × Layout)} {y : Window}
    (reached : run step (mounted coupleId userId visible) es = some y) :
    min INITIAL_BATCH (messageCount y) ≤ (visibleMessages y).length ∧
    (y.loaded = true → ∀ more z, run step y more = some z →
      (shownIds y).Sublist (shownIds z)) ∧
    (y.tab.isFetchingOlder = false →
      (∀ more z, (∀ e ∈ more, ScrollsUp e) → run step y more = some z →
        y.startIndex ≤ LOAD_BATCH * more.length → visibleMessages z = sortedMessages z.tab) ∧
      ∀ e z, ScrollsUp e → step y e = some z → y.startIndex = 0 →
        z.tab.isFetchingOlder = true ∨ y.tab.hasMoreServer = false ∨ y.tab.allMessages = []) := by
  have sound := run_sound reached
  refine ⟨?_, fun loaded more z later => shown_run loaded later, fun idle => ⟨?_, ?_⟩⟩
  · have enough := sound.enough
    have length : (visibleMessages y).length = messageCount y - y.startIndex :=
      List.length_drop
    simp only [INITIAL_BATCH] at enough ⊢
    omega
  · intro more z up later enough
    unfold visibleMessages
    rw [scrolls_up_show_all sound (Or.inl idle) up enough later, List.drop_zero]
  · intro e z up once none_left
    exact (scroll_up sound idle up once).2 none_left

def pageMessage (time : Nat) : ApiChatMessage where
  id := [UInt16.ofNat (time + 1)]
  coupleId := js "c"
  senderUserId := js "u"
  kind := .text
  text := none
  imageUrl := none
  sentAtMs := some time
  clientMessageId := none

def fullPage : List ApiChatMessage := (List.range 50).map fun i => pageMessage (i + 10)

def tall : Layout := ⟨5000, 600⟩

def openChat : Window := mounted (js "c") (js "u") true

theorem full_page_is_shown : ∃ y z,
    run step openChat [(.initial 0 fullPage, tall)] = some y ∧ y.startIndex = 20 ∧
      run step y [(.scroll 0 5000, tall)] = some z ∧
      visibleMessages z = sortedMessages z.tab := by
  obtain ⟨y, z, reached, idle, index, up⟩ : ∃ y z,
      run step openChat [(.initial 0 fullPage, tall)] = some y ∧
        y.tab.isFetchingOlder = false ∧ y.startIndex = 20 ∧
        run step y [(.scroll 0 5000, tall)] = some z :=
    ⟨_, _, rfl, by decide, by decide, rfl⟩
  have scrolls : ∀ e ∈ [(Event.scroll 0 5000, tall)], ScrollsUp e :=
    List.forall_mem_singleton.mpr ⟨0, 5000, rfl, by decide⟩
  have shown := ((window_reaches_back reached).2.2 idle).1 _ z scrolls up (by rw [index]; decide)
  exact ⟨y, z, reached, index, up, shown⟩

/-- Whenever the list has grown, by older messages too, it is scrolled to its end; only a scroll
    brings messages into view that were loaded before, and once the first scroll to the end is done
    it does not move what was there. -/
theorem growth_scrolls_to_end {coupleId userId : JsString} {visible : Bool}
    {es : List (Event × Layout)} {y z : Window} {e : Event} {list : Layout}
    (reached : run step (mounted coupleId userId visible) es = some y)
    (moved : step y (e, list) = some z) :
    (messageCount y < messageCount z → z.scrollTop = list.clamp list.scrollHeight) ∧
    (z.startIndex < y.startIndex → z.loaded = y.loaded →
      ∃ scrollTop height, e = .scroll scrollTop height ∧ (y.hasInitialScroll = true →
        z.scrollTop = list.clamp (scrollTop + (list.scrollHeight - height)))) := by
  have sound := run_sound reached
  obtain ⟨w, done, rfl⟩ := Option.map_eq_some_iff.mp moved
  have untouched : Untouched w (commit list y w) := commit_untouched
  rw [untouched_count untouched, untouched.startIndex, untouched.loaded]
  unfold commit
  constructor
  · intro grown
    rw [if_neg fun same => Nat.ne_of_gt grown same.2.1]
    have busy := busy_event sound.idle done
    apply effect_to_end fun prepending => (busy prepending).1
    rw [(handled_enough sound done).2, sound.counted]
    exact grown
  · intro less loaded
    rw [if_neg fun same => Nat.ne_of_lt less same.1]
    obtain ⟨scrollTop, height, event, rfl⟩ := handle_reveals done loaded less
    refine ⟨scrollTop, height, event, fun started => ?_⟩
    have counted := sound.counted
    simp only [messageCount] at counted
    simp [layoutEffect, restorePosition, messageCount, started, counted]

/-- The user has scrolled up to a message that the server has yet to send. -/
def scrolledUp : List (Event × Layout) :=
  [(.initial 0 fullPage, tall), (.scroll 0 5000, tall), (.scroll 0 5000, tall)]

theorem older_page_scrolls_to_end : ∃ y z, run step openChat scrolledUp = some y ∧
    y.scrollTop = 0 ∧ step y (.older 0 [pageMessage 1], ⟨5100, 600⟩) = some z ∧
    z.scrollTop = 4500 := by
  obtain ⟨y, z, reached, at_top, moved, grown⟩ : ∃ y z,
      run step openChat scrolledUp = some y ∧ y.scrollTop = 0 ∧
        step y (.older 0 [pageMessage 1], ⟨5100, 600⟩) = some z ∧
        messageCount y < messageCount z :=
    ⟨_, _, rfl, by decide, rfl, by decide⟩
  exact ⟨y, z, reached, at_top, moved, (growth_scrolls_to_end reached moved).1 grown⟩

end ChatWindow
