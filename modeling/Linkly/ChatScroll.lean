import Linkly.ChatClient
import Linkly.SortedPages
import Mathlib.Data.List.Induction

/-!
Scrolling back to the first message of a couple: the initial page, then older pages below the
smallest timestamp that the tab holds, while the stored messages stay as they are. The order of
messages with equal timestamps is open in every query.
-/
namespace ChatScroll
open ChatClient ChatService ChatTab JsText SortedPages TransitionRuns

structure Scroll where
  tab : Tab
  loaded : Bool
  deriving DecidableEq, Repr

/-- The order in which the database returns the rows of a query, and the clock of the client. -/
structure Page where
  rows : List ChatMessage
  now : Int
  deriving DecidableEq, Repr

def start (coupleId userId : JsString) : Scroll := ⟨mounted coupleId userId, false⟩

section Steps
variable (cipher : Cipher) (s : Store)

def fetched (query : ChatFetchQueryDto) (rows : List ChatMessage) : Option (List ApiChatMessage) :=
  if OrderedRows s query rows then
    (fetchMessages cipher s query rows).toOption.map fun messages => messages.map apiMessage
  else none

/-- A page that is requested and answered. -/
def step (y : Scroll) (page : Page) : Option Scroll :=
  if y.loaded then do
    let beforeMs ← fetchOlderFromServer y.tab
    -- the query class rejects a bound below 1
    if beforeMs < 1 then none
    else
      let items ← fetched cipher s (pageQuery y.tab LOAD_BATCH (some beforeMs)) page.rows
      return { y with tab := handleOlderPage page.now y.tab items }
  else do
    let items ← fetched cipher s (pageQuery y.tab (INITIAL_BATCH + LOAD_BATCH) none) page.rows
    return ⟨handleInitialPage page.now y.tab items, true⟩

def Done (y : Scroll) : Prop := y.loaded = true ∧ y.tab.hasMoreServer = false

/-- The messages of the couple. -/
def history (coupleId : JsString) : List ChatMessage := s.messages.filter (·.coupleId = coupleId)

def AllOnce (tab : Tab) : Prop := ∀ m ∈ history s tab.coupleId, tab.ids.count m.id = 1

/-- A scroll ends after a bounded number of pages, whatever the order of equal timestamps, and then
    the tab has every message once. -/
structure Completes (coupleId userId : JsString) : Prop where
  ends : ∃ bound : Nat, ∀ pages y,
    run (step cipher s) (start coupleId userId) pages = some y → pages.length ≤ bound
  goes_on : ∀ pages y, run (step cipher s) (start coupleId userId) pages = some y →
    Done y ∨ ∃ page z, step cipher s y page = some z
  all_once : ∀ pages y, run (step cipher s) (start coupleId userId) pages = some y → Done y →
    AllOnce s y.tab

/-- What the server needs for its answers: a member who asks, rows that it can decrypt, and keys. -/
structure Answerable (coupleId userId : JsString) : Prop where
  member : s.isMember coupleId userId = true
  readable : ∀ m ∈ history s coupleId, (cipher.decrypt m.payload).isSome
  once : (s.messages.map ChatMessage.id).Nodup
  filled : ∀ m ∈ s.messages, m.id ≠ []

end Steps

/-- The number of messages that the tab holds after the initial page and `k` full older ones. -/
def boundary (k : Nat) : Nat := INITIAL_BATCH + LOAD_BATCH + LOAD_BATCH * k

/-- The last message of a full page has a timestamp that a query takes as a bound, and the next
    message has another one. -/
def UnsplitAt (times : List Int) (k : Nat) : Prop :=
  ∀ last, times[boundary k - 1]? = some last → 1 ≤ last ∧ times[boundary k]? ≠ some last

section Pages
variable {cipher : Cipher} {s : Store} {coupleId userId : JsString}

def key (m : ChatMessage) : JsString × Int := (m.id, m.sentAtMs)

def entryKey (m : TabMessage) : JsString × Int := (m.id, m.sentAtMs)

def itemKey (m : ApiChatMessage) : JsString × Option Int := (m.id, m.sentAtMs)

theorem fetched_keys {query : ChatFetchQueryDto} {rows : List ChatMessage}
    {items : List ApiChatMessage} (done : fetched cipher s query rows = some items) :
    OrderedRows s query rows ∧
      items.map itemKey = (rows.take query.limit).map fun m => (m.id, some m.sentAtMs) := by
  unfold fetched at done
  split_ifs at done with ordered
  refine ⟨ordered, ?_⟩
  obtain ⟨views, fetched, rfl⟩ := Option.map_eq_some_iff.mp done
  unfold fetchMessages ensureCoupleMember at fetched
  split at fetched
  · cases decrypted : (rows.take query.limit).mapM (decryptView cipher) with
    | error e => simp [decrypted, bind, Except.bind, Except.toOption] at fetched
    | ok others =>
      simp only [decrypted, bind, Except.bind, Except.toOption, Option.some.injEq] at fetched
      rw [← fetched, List.map_map]
      apply decrypt_all_map cipher _ decrypted
      intro record view decrypted
      unfold decryptView at decrypted
      split at decrypted
      · simp at decrypted
      · rw [← Except.ok.inj decrypted]
        rfl
  · simp [bind, Except.bind, Except.toOption] at fetched

theorem mapped_keys {items : List ApiChatMessage} {rows : List ChatMessage} (userId : JsString)
    (now : Int) (same : items.map itemKey = rows.map fun m => (m.id, some m.sentAtMs))
    (filled : ∀ m ∈ rows, m.id ≠ []) :
    (items.filterMap (mapApiMessage userId now)).map entryKey = rows.map key := by
  induction items generalizing rows with
  | nil =>
    cases rows with
    | nil => rfl
    | cons m rows => simp at same
  | cons item items ih =>
    cases rows with
    | nil => simp at same
    | cons m rows =>
      rw [List.map_cons, List.map_cons, List.cons.injEq] at same
      obtain ⟨first, rest⟩ := same
      obtain ⟨same_id, same_time⟩ := Prod.mk.inj first
      have there : item.id ≠ [] := same_id ▸ filled m List.mem_cons_self
      have mapped := ih rest fun other mem => filled other (List.mem_cons_of_mem _ mem)
      rw [List.filterMap_cons_some (by rw [mapApiMessage, if_neg there]), List.map_cons,
        List.map_cons, mapped]
      simp [entryKey, key, same_id, same_time]

theorem ordered_backwards_iff {query : ChatFetchQueryDto} (backwards : query.afterMs = none)
    {rows : List ChatMessage} : OrderedRows s query rows ↔
      LatestFirst ChatMessage.sentAtMs (s.messages.filter query.selects) rows := by
  have descends : query.ordered = fun a b => b.sentAtMs ≤ a.sentAtMs := by
    funext a b
    simp [ChatFetchQueryDto.ordered, bound, backwards]
  rw [OrderedRows, LatestFirst, descends]

/-- The server has a page for every query of the member. -/
theorem page_exists (answerable : Answerable cipher s coupleId userId)
    (query : ChatFetchQueryDto) (couple : query.coupleId = coupleId) (user : query.userId = userId)
    (backwards : query.afterMs = none) : ∃ rows items, fetched cipher s query rows = some items := by
  obtain ⟨rows, sorted⟩ :=
    latest_first_exists ChatMessage.sentAtMs (s.messages.filter query.selects)
  have ordered := (ordered_backwards_iff backwards).mpr sorted
  have readable : ∀ m ∈ rows.take query.limit, (cipher.decrypt m.payload).isSome := by
    intro m mem
    have selected := List.mem_filter.mp (sorted.1.subset (List.mem_of_mem_take mem))
    have own : m.coupleId = query.coupleId := by
      have := selected.2
      simp only [ChatFetchQueryDto.selects, decide_eq_true_eq] at this
      exact this.1
    exact answerable.readable m
      (List.mem_filter.mpr ⟨selected.1, decide_eq_true (own.trans couple)⟩)
  have member : s.isMember query.coupleId query.userId = true := by
    rw [couple, user]
    exact answerable.member
  obtain ⟨views, done⟩ := fetch_messages_ok cipher member readable
  exact ⟨rows, views.map apiMessage, by simp [fetched, ordered, done, Except.toOption]⟩

/-- The smallest timestamp that the tab holds. -/
theorem older_bound {tab : Tab} {beforeMs : Int} (found : fetchOlderFromServer tab = some beforeMs) :
    tab.hasMoreServer = true ∧ (∃ entry ∈ tab.allMessages, entry.sentAtMs = beforeMs) ∧
      ∀ entry ∈ tab.allMessages, beforeMs ≤ entry.sentAtMs := by
  unfold fetchOlderFromServer at found
  split_ifs at found with blocked
  simp only [Bool.not_eq_true, not_or, Bool.not_eq_false] at blocked
  obtain ⟨first, is_head, rfl⟩ := Option.map_eq_some_iff.mp found
  have total : Std.Total fun a b : TabMessage => a.sentAtMs ≤ b.sentAtMs :=
    ⟨fun a b => Int.le_total a.sentAtMs b.sentAtMs⟩
  have trans : IsTrans TabMessage fun a b => a.sentAtMs ≤ b.sentAtMs :=
    ⟨fun _ _ _ ab bc => Int.le_trans ab bc⟩
  have sorted : (sortedMessages tab).Pairwise fun a b => a.sentAtMs ≤ b.sentAtMs :=
    List.pairwise_insertionSort _ _
  have perm : (sortedMessages tab).Perm tab.allMessages := List.perm_insertionSort _ _
  obtain ⟨rest, whole⟩ := List.head?_eq_some_iff.mp is_head
  refine ⟨blocked.1, ⟨first, perm.subset (by simp [whole]), rfl⟩, ?_⟩
  intro entry mem
  have in_sorted := perm.symm.subset mem
  rw [whole] at in_sorted sorted
  rcases List.mem_cons.mp in_sorted with rfl | later
  · exact Int.le_refl _
  · exact (List.pairwise_cons.mp sorted).1 entry later

theorem older_bound_exists {tab : Tab} (more : tab.hasMoreServer = true)
    (idle : tab.isFetchingOlder = false) (filled : tab.allMessages ≠ []) :
    ∃ beforeMs, fetchOlderFromServer tab = some beforeMs := by
  have nonempty : sortedMessages tab ≠ [] := by
    intro empty
    have perm : (sortedMessages tab).Perm tab.allMessages := List.perm_insertionSort _ _
    rw [empty] at perm
    exact filled perm.symm.eq_nil
  exact ⟨((sortedMessages tab).head nonempty).sentAtMs, by
    simp [fetchOlderFromServer, more, idle, List.head?_eq_some_head nonempty]⟩

theorem history_filter (query : ChatFetchQueryDto) :
    s.messages.filter query.selects = (history s query.coupleId).filter query.selects := by
  rw [history, List.filter_filter]
  apply List.filter_congr
  intro m _
  by_cases own : m.coupleId = query.coupleId <;> simp [ChatFetchQueryDto.selects, own]

theorem history_once (answerable : Answerable cipher s coupleId userId) :
    ((history s coupleId).map ChatMessage.id).Nodup :=
  answerable.once.sublist (List.filter_sublist.map _)

end Pages

/-- Where a scroll is after `k` older pages: what the tab holds, and what is left. -/
structure Position (s : Store) (coupleId userId : JsString) (k : Nat) (held rest : List ChatMessage)
    (y : Scroll) : Prop where
  loaded : y.loaded = true
  couple : y.tab.coupleId = coupleId
  user : y.tab.userId = userId
  idle : y.tab.isFetchingOlder = false
  coherent : Coherent y.tab
  entries : (y.tab.allMessages.map entryKey).Perm (held.map key)
  split : Split ChatMessage.sentAtMs (history s coupleId) held rest (boundary k)
  more : y.tab.hasMoreServer = decide (boundary k ≤ (history s coupleId).length)

section Positions
variable {cipher : Cipher} {s : Store} {coupleId userId : JsString} {k : Nat}
  {held rest : List ChatMessage} {y z : Scroll} {page : Page}

theorem entries_ids (at_k : Position s coupleId userId k held rest y) :
    y.tab.ids.Perm (held.map ChatMessage.id) := by
  have ids := at_k.entries.map Prod.fst
  rw [List.map_map, List.map_map] at ids
  exact ids

theorem entries_times (at_k : Position s coupleId userId k held rest y) :
    (y.tab.allMessages.map TabMessage.sentAtMs).Perm (held.map ChatMessage.sentAtMs) := by
  have times := at_k.entries.map Prod.snd
  rw [List.map_map, List.map_map] at times
  exact times

/-- The bound of the next request is the last of the first times. -/
theorem bound_at (at_k : Position s coupleId userId k held rest y) {last beforeMs : Int}
    (at_last : (descending ChatMessage.sentAtMs (history s coupleId))[boundary k - 1]? = some last)
    (found : fetchOlderFromServer y.tab = some beforeMs) : beforeMs = last := by
  obtain ⟨_, ⟨entry, mem, is_bound⟩, least⟩ := older_bound found
  have in_held := (entries_times at_k).subset (List.mem_map_of_mem mem)
  obtain ⟨m, mem_m, same_time⟩ := List.mem_map.mp in_held
  have above := held_not_before at_k.split at_last mem_m
  obtain ⟨inside, is_last⟩ := List.getElem?_eq_some_iff.mp at_last
  have last_held : last ∈ (descending ChatMessage.sentAtMs (history s coupleId)).take
      (boundary k) := by
    refine List.mem_take_iff_getElem.mpr ⟨boundary k - 1, ?_, is_last⟩
    simp only [boundary, INITIAL_BATCH, LOAD_BATCH] at inside ⊢
    omega
  have in_times := (entries_times at_k).symm.subset (at_k.split.held_times.symm.subset last_held)
  obtain ⟨other, mem_other, other_time⟩ := List.mem_map.mp in_times
  have below := least other mem_other
  omega

/-- The items of a page have the ids of its rows, each once and none empty. -/
theorem items_of_page (answerable : Answerable cipher s coupleId userId) {query : ChatFetchQueryDto}
    {rows : List ChatMessage} {items : List ApiChatMessage}
    (done : fetched cipher s query rows = some items) :
    items.map ApiChatMessage.id = (rows.take query.limit).map ChatMessage.id ∧
      (items.map ApiChatMessage.id).Nodup ∧ (∀ item ∈ items, item.id ≠ []) ∧
      ∀ m ∈ rows.take query.limit, m ∈ s.messages ∧ m.id ≠ [] := by
  obtain ⟨ordered, keys⟩ := fetched_keys done
  have ids : items.map ApiChatMessage.id = (rows.take query.limit).map ChatMessage.id := by
    have firsts := congrArg (List.map Prod.fst) keys
    rw [List.map_map, List.map_map] at firsts
    exact firsts
  have stored : ∀ m ∈ rows.take query.limit, m ∈ s.messages := fun m mem =>
    List.mem_of_mem_filter (ordered.1.subset (List.mem_of_mem_take mem))
  have filled : ∀ item ∈ items, item.id ≠ [] := by
    intro item mem
    have in_ids := List.mem_map_of_mem (f := ApiChatMessage.id) mem
    rw [ids] at in_ids
    obtain ⟨m, in_rows, same⟩ := List.mem_map.mp in_ids
    rw [← same]
    exact answerable.filled m (stored m in_rows)
  refine ⟨ids, ?_, filled, fun m mem => ⟨stored m mem, answerable.filled m (stored m mem)⟩⟩
  rw [ids]
  exact (ordered_rows_ids ordered answerable.once query.limit).1

theorem position_initial (answerable : Answerable cipher s coupleId userId)
    (moved : step cipher s (start coupleId userId) page = some z) :
    Position s coupleId userId 0 (page.rows.take (boundary 0)) (page.rows.drop (boundary 0)) z := by
  simp only [step, start, Bool.false_eq_true, ↓reduceIte, bind, Option.bind_eq_some_iff, pure,
    Option.some.injEq] at moved
  obtain ⟨items, done, rfl⟩ := moved
  obtain ⟨ordered, keys⟩ := fetched_keys done
  obtain ⟨_, once, filled, rows_filled⟩ := items_of_page answerable done
  have all_rows : s.messages.filter (pageQuery (mounted coupleId userId)
      (INITIAL_BATCH + LOAD_BATCH) none).selects = history s coupleId := by
    apply List.filter_congr
    intro m _
    simp [ChatFetchQueryDto.selects, pageQuery, mounted, bound]
  have sorted := (ordered_backwards_iff rfl).mp ordered
  rw [all_rows] at sorted
  have mapped := mapped_keys userId page.now keys fun m mem => (rows_filled m mem).2
  have split := split_page (split_none (history s coupleId)) sorted (boundary 0)
  have length := congrArg List.length mapped
  have limit : (pageQuery (mounted coupleId userId) (INITIAL_BATCH + LOAD_BATCH) none).limit =
      boundary 0 := rfl
  rw [List.length_map, List.length_map, List.length_take, sorted.1.length_eq, limit] at length
  have more : (INITIAL_BATCH + LOAD_BATCH ≤ min (boundary 0) (history s coupleId).length) =
      (boundary 0 ≤ (history s coupleId).length) := by
    simp only [boundary, INITIAL_BATCH, LOAD_BATCH, eq_iff_iff]
    omega
  exact
    { loaded := rfl
      couple := rfl
      user := rfl
      idle := rfl
      coherent := coherent_initial page.now filled once
      entries := List.Perm.of_eq mapped
      split := by simpa using split
      more := by simp only [handleInitialPage, mounted, length, more, Bool.true_and] }

/-- Below a full page without a tie the next query selects just what is left. -/
theorem selected_rest (at_k : Position s coupleId userId k held rest y) {last : Int}
    (at_last : (descending ChatMessage.sentAtMs (history s coupleId))[boundary k - 1]? = some last)
    (valid : 1 ≤ last)
    (untied : (descending ChatMessage.sentAtMs (history s coupleId))[boundary k]? ≠ some last) :
    (s.messages.filter (pageQuery y.tab LOAD_BATCH (some last)).selects).Perm rest := by
  have filtered := at_k.split.all.filter (pageQuery y.tab LOAD_BATCH (some last)).selects
  rw [history_filter, show (pageQuery y.tab LOAD_BATCH (some last)).coupleId = coupleId from
    at_k.couple]
  have not_zero : last ≠ 0 := by omega
  have selects : ∀ m ∈ history s coupleId,
      (pageQuery y.tab LOAD_BATCH (some last)).selects m = decide (m.sentAtMs < last) := by
    intro m mem
    have own := (List.mem_filter.mp mem).2
    simp only [decide_eq_true_eq] at own
    simp [ChatFetchQueryDto.selects, pageQuery, bound, at_k.couple, own, not_zero]
  have none_held : held.filter (pageQuery y.tab LOAD_BATCH (some last)).selects = [] := by
    rw [List.filter_eq_nil_iff]
    intro m mem
    have above := held_not_before at_k.split at_last mem
    rw [selects m (at_k.split.all.subset (List.mem_append_left rest mem))]
    simp only [decide_eq_true_eq]
    omega
  have all_rest : rest.filter (pageQuery y.tab LOAD_BATCH (some last)).selects = rest := by
    rw [List.filter_eq_self]
    intro m mem
    have positive : 0 < boundary k := by
      simp only [boundary, INITIAL_BATCH]
      omega
    have below := rest_before at_k.split at_last positive untied mem
    rw [selects m (at_k.split.all.subset (List.mem_append_right held mem))]
    exact decide_eq_true below
  rw [List.filter_append, none_held, all_rest, List.nil_append] at filtered
  exact filtered.symm

/-- What a step of a loaded scroll does. -/
theorem older_step (loaded : y.loaded = true) (moved : step cipher s y page = some z) :
    ∃ beforeMs items, fetchOlderFromServer y.tab = some beforeMs ∧ 1 ≤ beforeMs ∧
      fetched cipher s (pageQuery y.tab LOAD_BATCH (some beforeMs)) page.rows = some items ∧
      z = { y with tab := handleOlderPage page.now y.tab items } := by
  simp only [step, loaded, ↓reduceIte, bind, Option.bind_eq_some_iff] at moved
  obtain ⟨beforeMs, found, moved⟩ := moved
  split_ifs at moved with rejected
  obtain ⟨items, done, moved⟩ := Option.bind_eq_some_iff.mp moved
  rw [← loaded] at moved
  exact ⟨beforeMs, items, found, by omega, done, (Option.some.inj moved).symm⟩

theorem last_exists (full : boundary k ≤ (history s coupleId).length) : ∃ last,
    (descending ChatMessage.sentAtMs (history s coupleId))[boundary k - 1]? = some last := by
  refine ⟨_, List.getElem?_eq_getElem ?_⟩
  rw [descending_length]
  simp only [boundary, INITIAL_BATCH] at full ⊢
  omega

theorem full_of_more (at_k : Position s coupleId userId k held rest y)
    (more : y.tab.hasMoreServer = true) : boundary k ≤ (history s coupleId).length := by
  rw [at_k.more] at more
  simpa using more

/-- Messages of the rest are new to the tab. -/
theorem rest_unseen (answerable : Answerable cipher s coupleId userId)
    (at_k : Position s coupleId userId k held rest y) {m : ChatMessage} (mem : m ∈ rest) :
    m.id ∉ y.tab.seenMessageIds := by
  intro seen
  have held_id := (entries_ids at_k).subset ((at_k.coherent.seen_iff _).mp seen)
  have all_once := (at_k.split.all.map ChatMessage.id).nodup_iff.mpr (history_once answerable)
  rw [List.map_append, List.nodup_append] at all_once
  exact all_once.2.2 m.id held_id m.id (List.mem_map_of_mem mem) rfl

theorem position_next (answerable : Answerable cipher s coupleId userId)
    (at_k : Position s coupleId userId k held rest y)
    (unsplit : UnsplitAt (descending ChatMessage.sentAtMs (history s coupleId)) k)
    (moved : step cipher s y page = some z) :
    Position s coupleId userId (k + 1) (held ++ page.rows.take LOAD_BATCH)
      (page.rows.drop LOAD_BATCH) z := by
  obtain ⟨beforeMs, items, found, _, done, rfl⟩ := older_step at_k.loaded moved
  have full := full_of_more at_k (older_bound found).1
  obtain ⟨last, at_last⟩ := last_exists full
  obtain ⟨valid, untied⟩ := unsplit last at_last
  rw [bound_at at_k at_last found] at done
  obtain ⟨ordered, keys⟩ := fetched_keys done
  obtain ⟨_, once, filled, rows_filled⟩ := items_of_page answerable done
  have latest := (ordered_backwards_iff rfl).mp ordered
  have sorted : LatestFirst ChatMessage.sentAtMs rest page.rows :=
    ⟨latest.1.trans (selected_rest at_k at_last valid untied), latest.2⟩
  have mapped := mapped_keys y.tab.userId page.now keys fun m mem => (rows_filled m mem).2
  have all_new : (items.filterMap (mapApiMessage y.tab.userId page.now)).filter
      (·.id ∉ y.tab.seenMessageIds) = items.filterMap (mapApiMessage y.tab.userId page.now) := by
    rw [List.filter_eq_self]
    intro m mem
    have key_mem := List.mem_map_of_mem (f := entryKey) mem
    rw [mapped] at key_mem
    obtain ⟨new, in_page, same⟩ := List.mem_map.mp key_mem
    rw [decide_eq_true_eq, ← (Prod.mk.inj same).1]
    exact rest_unseen answerable at_k (sorted.1.subset (List.mem_of_mem_take in_page))
  have length := congrArg List.length mapped
  rw [List.length_map, List.length_map, List.length_take, sorted.1.length_eq] at length
  have held_length := split_length at_k.split full
  have all_length := at_k.split.all.length_eq
  rw [List.length_append] at all_length
  have more : (LOAD_BATCH ≤ min (pageQuery y.tab LOAD_BATCH (some last)).limit rest.length) =
      (boundary (k + 1) ≤ (history s coupleId).length) := by
    simp only [pageQuery, boundary, INITIAL_BATCH, LOAD_BATCH, eq_iff_iff] at held_length ⊢
    omega
  exact
    { loaded := at_k.loaded
      couple := at_k.couple
      user := at_k.user
      idle := rfl
      coherent := coherent_older page.now at_k.coherent filled once
      entries := by
        simp only [handleOlderPage, all_new, List.map_append, mapped]
        exact List.perm_append_comm.trans (at_k.entries.append_right _)
      split := split_page at_k.split sorted LOAD_BATCH
      more := by
        simp only [handleOlderPage, length, more, at_k.more, full, decide_true, Bool.true_and] }

/-- Where nothing more is to be had, the tab has everything. -/
theorem position_all_once (answerable : Answerable cipher s coupleId userId)
    (at_k : Position s coupleId userId k held rest y) (ended : y.tab.hasMoreServer = false) :
    AllOnce s y.tab := by
  rw [at_k.more, decide_eq_false_iff_not, Nat.not_le] at ended
  have nothing : rest = [] := by
    have times := at_k.split.rest_times.length_eq
    rw [List.length_map, List.length_drop, descending_length] at times
    exact List.eq_nil_of_length_eq_zero (by omega)
  have all := at_k.split.all
  rw [nothing, List.append_nil] at all
  have ids := (entries_ids at_k).trans (all.map ChatMessage.id)
  intro m mem
  rw [at_k.couple] at mem
  rw [ids.count_eq]
  exact List.count_eq_one_of_mem (history_once answerable) (List.mem_map_of_mem mem)

theorem initial_page_exists (answerable : Answerable cipher s coupleId userId) :
    ∃ page z, step cipher s (start coupleId userId) page = some z := by
  obtain ⟨rows, items, done⟩ := page_exists answerable
    (pageQuery (mounted coupleId userId) (INITIAL_BATCH + LOAD_BATCH) none) rfl rfl rfl
  refine ⟨⟨rows, 0⟩, ⟨handleInitialPage 0 (mounted coupleId userId) items, true⟩, ?_⟩
  simp [step, start, done, bind]

/-- A full scroll goes on when its last timestamp is a valid bound. -/
theorem older_page_exists (answerable : Answerable cipher s coupleId userId)
    (at_k : Position s coupleId userId k held rest y) (more : y.tab.hasMoreServer = true)
    (valid : ∀ last, (descending ChatMessage.sentAtMs (history s coupleId))[boundary k - 1]? =
      some last → 1 ≤ last) : ∃ page z, step cipher s y page = some z := by
  have full := full_of_more at_k more
  have filled : y.tab.allMessages ≠ [] := by
    intro empty
    have length := at_k.entries.length_eq
    rw [List.length_map, List.length_map, split_length at_k.split full, empty] at length
    simp [boundary, INITIAL_BATCH] at length
    omega
  obtain ⟨beforeMs, found⟩ := older_bound_exists more at_k.idle filled
  obtain ⟨last, at_last⟩ := last_exists full
  have allowed := valid last at_last
  rw [← bound_at at_k at_last found] at allowed
  obtain ⟨rows, items, done⟩ := page_exists answerable
    (pageQuery y.tab LOAD_BATCH (some beforeMs)) at_k.couple at_k.user rfl
  refine ⟨⟨rows, 0⟩, { y with tab := handleOlderPage 0 y.tab items }, ?_⟩
  simp [step, at_k.loaded, found, done, bind, Int.not_lt.mpr allowed]

end Positions

section Runs
variable {cipher : Cipher} {s : Store} {coupleId userId : JsString}
  (answerable : Answerable cipher s coupleId userId)
include answerable

/-- As long as no full page ends in a tie, the pages so far give the position. -/
theorem position_of_run {pages : List Page} {page : Page} {z : Scroll}
    (unsplit : ∀ k < pages.length,
      UnsplitAt (descending ChatMessage.sentAtMs (history s coupleId)) k)
    (moved : run (step cipher s) (start coupleId userId) (pages ++ [page]) = some z) :
    ∃ held rest, Position s coupleId userId pages.length held rest z := by
  induction pages using List.reverseRecOn generalizing page z with
  | nil =>
    obtain ⟨next, first, rest⟩ := run_cons_iff.mp moved
    cases rest
    exact ⟨_, _, position_initial answerable first⟩
  | append_singleton pages last ih =>
    obtain ⟨y, front, back⟩ := run_append_iff.mp moved
    rw [List.length_append, List.length_singleton] at unsplit ⊢
    obtain ⟨held, rest, at_k⟩ := ih (fun k less => unsplit k (by omega)) front
    obtain ⟨next, first, done⟩ := run_cons_iff.mp back
    cases done
    exact ⟨_, _, position_next answerable at_k (unsplit _ (by omega)) first⟩

/-- The messages bound the number of pages. -/
theorem pages_bounded {pages : List Page} {z : Scroll}
    (unsplit : ∀ k, UnsplitAt (descending ChatMessage.sentAtMs (history s coupleId)) k)
    (moved : run (step cipher s) (start coupleId userId) pages = some z) :
    pages.length ≤ (history s coupleId).length + 1 := by
  rcases List.eq_nil_or_concat pages with rfl | ⟨front, last, rfl⟩
  · simp
  · rw [List.concat_eq_append] at moved ⊢
    rcases List.eq_nil_or_concat front with rfl | ⟨early, page, rfl⟩
    · simp
    · rw [List.concat_eq_append] at moved ⊢
      obtain ⟨y, before, after⟩ := run_append_iff.mp moved
      obtain ⟨held, rest, at_k⟩ := position_of_run answerable (fun k _ => unsplit k) before
      obtain ⟨next, first, _⟩ := run_cons_iff.mp after
      obtain ⟨beforeMs, _, found, _⟩ := older_step at_k.loaded first
      have full := full_of_more at_k (older_bound found).1
      simp only [boundary, INITIAL_BATCH, LOAD_BATCH, List.length_append, List.length_singleton]
        at full ⊢
      omega

theorem completes_of_unsplit
    (unsplit : ∀ k, UnsplitAt (descending ChatMessage.sentAtMs (history s coupleId)) k) :
    Completes cipher s coupleId userId where
  ends := ⟨_, fun _ _ moved => pages_bounded answerable unsplit moved⟩
  goes_on := by
    intro pages y moved
    rcases List.eq_nil_or_concat pages with rfl | ⟨front, last, rfl⟩
    · cases moved
      exact Or.inr (initial_page_exists answerable)
    · rw [List.concat_eq_append] at moved
      obtain ⟨held, rest, at_k⟩ := position_of_run answerable (fun k _ => unsplit k) moved
      cases more : y.tab.hasMoreServer with
      | false => exact Or.inl ⟨at_k.loaded, more⟩
      | true =>
        right
        exact older_page_exists answerable at_k more fun last at_last =>
          (unsplit _ last at_last).1
  all_once := by
    intro pages y moved ended
    rcases List.eq_nil_or_concat pages with rfl | ⟨front, last, rfl⟩
    · cases moved
      simp [Done, start] at ended
    · rw [List.concat_eq_append] at moved
      obtain ⟨held, rest, at_k⟩ := position_of_run answerable (fun k _ => unsplit k) moved
      exact position_all_once answerable at_k ended.2

/-- The tab has gone past a message that it does not have. -/
structure Passed (coupleId : JsString) (m : ChatMessage) (y : Scroll) : Prop where
  loaded : y.loaded = true
  couple : y.tab.coupleId = coupleId
  missing : m.id ∉ y.tab.ids
  past : ∃ entry ∈ y.tab.allMessages, entry.sentAtMs ≤ m.sentAtMs

theorem passed_step {m : ChatMessage} (stored : m ∈ s.messages) {y z : Scroll} {page : Page}
    (moved : step cipher s y page = some z) (passed : Passed coupleId m y) :
    Passed coupleId m z := by
  obtain ⟨beforeMs, items, found, valid, done, rfl⟩ := older_step passed.loaded moved
  obtain ⟨entry, mem, early⟩ := passed.past
  obtain ⟨ordered, _⟩ := fetched_keys done
  obtain ⟨ids, _, _, _⟩ := items_of_page answerable done
  refine ⟨passed.loaded, passed.couple, ?_, entry, List.mem_append_right _ mem, early⟩
  intro listed
  obtain ⟨new, in_list, same⟩ := List.mem_map.mp listed
  rcases List.mem_append.mp in_list with fresh | old
  · obtain ⟨item, in_items, mapped⟩ := List.mem_filterMap.mp (List.mem_of_mem_filter fresh)
    have in_ids := List.mem_map_of_mem (f := ApiChatMessage.id) in_items
    rw [← (map_api_some mapped).1, same, ids] at in_ids
    obtain ⟨row, in_page, same_id⟩ := List.mem_map.mp in_ids
    obtain ⟨row_stored, selected⟩ :=
      List.mem_filter.mp (ordered.1.subset (List.mem_of_mem_take in_page))
    obtain rfl := List.inj_on_of_nodup_map answerable.once row_stored stored same_id
    have not_zero : beforeMs ≠ 0 := by omega
    have below := (older_bound found).2.2 entry mem
    simp [ChatFetchQueryDto.selects, pageQuery, bound, not_zero] at selected
    omega
  · exact passed.missing (List.mem_map.mpr ⟨new, old, same⟩)

/-- A scroll that completes reaches every full page before the first tie. -/
theorem position_reached (completes : Completes cipher s coupleId userId) {k : Nat}
    (unsplit : ∀ j < k, UnsplitAt (descending ChatMessage.sentAtMs (history s coupleId)) j)
    (full : boundary k ≤ (history s coupleId).length) :
    ∃ pages y held rest, run (step cipher s) (start coupleId userId) pages = some y ∧
      Position s coupleId userId k held rest y := by
  have reached : ∃ pages page y, pages.length = k ∧
      run (step cipher s) (start coupleId userId) (pages ++ [page]) = some y := by
    induction k with
    | zero =>
      obtain ⟨page, z, first⟩ := initial_page_exists answerable
      exact ⟨[], page, z, rfl, run_cons_iff.mpr ⟨z, first, rfl⟩⟩
    | succ k ih =>
      have full_before : boundary k ≤ (history s coupleId).length := by
        simp only [boundary, LOAD_BATCH] at full ⊢
        omega
      obtain ⟨pages, page, y, length, moved⟩ := ih (fun j less => unsplit j (by omega)) full_before
      obtain ⟨held, rest, at_k⟩ :=
        position_of_run answerable (fun j less => unsplit j (by omega)) moved
      rw [length] at at_k
      rcases completes.goes_on _ y moved with ended | ⟨next, z, taken⟩
      · have more := at_k.more
        simp [full_before, ended.2] at more
      · exact ⟨pages ++ [page], next, z, by simp [length],
          run_append_iff.mpr ⟨y, moved, run_cons_iff.mpr ⟨z, taken, rfl⟩⟩⟩
  obtain ⟨pages, page, y, length, moved⟩ := reached
  obtain ⟨held, rest, at_k⟩ :=
    position_of_run answerable (fun j less => unsplit j (by omega)) moved
  exact ⟨_, y, held, rest, moved, length ▸ at_k⟩

omit answerable in
theorem scroll_finishes (completes : Completes cipher s coupleId userId) {pages : List Page}
    {y : Scroll} (moved : run (step cipher s) (start coupleId userId) pages = some y) :
    ∃ more z, run (step cipher s) y more = some z ∧
      run (step cipher s) (start coupleId userId) (pages ++ more) = some z ∧ Done z := by
  obtain ⟨bound, ends⟩ := completes.ends
  induction left : bound + 1 - pages.length generalizing pages y with
  | zero =>
    have := ends pages y moved
    omega
  | succ left ih =>
    rcases completes.goes_on pages y moved with ended | ⟨page, next, taken⟩
    · exact ⟨[], y, rfl, by simpa using moved, ended⟩
    · have moved_on : run (step cipher s) (start coupleId userId) (pages ++ [page]) = some next :=
        run_append_iff.mpr ⟨y, moved, run_cons_iff.mpr ⟨next, taken, rfl⟩⟩
      obtain ⟨more, z, rest, whole, ended⟩ := ih moved_on (by simp; omega)
      exact ⟨page :: more, z, run_cons_iff.mpr ⟨next, taken, rest⟩, by simpa using whole, ended⟩

theorem unsplit_of_completes (completes : Completes cipher s coupleId userId) (k : Nat) :
    UnsplitAt (descending ChatMessage.sentAtMs (history s coupleId)) k := by
  induction k using Nat.strong_induction_on with
  | _ k ih =>
    intro last at_last
    have inside := (List.getElem?_eq_some_iff.mp at_last).1
    have full : boundary k ≤ (history s coupleId).length := by
      rw [descending_length] at inside
      omega
    obtain ⟨pages, y, held, rest, moved, at_k⟩ := position_reached answerable completes ih full
    have not_done : ¬ Done y := by
      intro ended
      have more := at_k.more
      simp [full, ended.2] at more
    obtain ⟨page, next, taken⟩ := (completes.goes_on pages y moved).resolve_left not_done
    obtain ⟨beforeMs, _, found, valid, _, _⟩ := older_step at_k.loaded taken
    rw [bound_at at_k at_last found] at valid
    refine ⟨valid, ?_⟩
    intro tied
    have in_rest : last ∈ rest.map ChatMessage.sentAtMs := by
      apply at_k.split.rest_times.symm.subset
      exact List.mem_iff_getElem?.mpr ⟨0, by simpa using tied⟩
    obtain ⟨m, mem, same_time⟩ := List.mem_map.mp in_rest
    have own : m ∈ history s coupleId := at_k.split.all.subset (List.mem_append_right held mem)
    obtain ⟨_, ⟨entry, mem_entry, at_bound⟩, _⟩ := older_bound found
    have passed : Passed coupleId m y := by
      refine ⟨at_k.loaded, at_k.couple, ?_, entry, mem_entry, ?_⟩
      · rw [← at_k.coherent.seen_iff]
        exact rest_unseen answerable at_k mem
      · rw [at_bound, bound_at at_k at_last found, same_time]
    obtain ⟨more, z, moved_on, whole, ended⟩ := scroll_finishes completes moved
    have passed_z := run_keeps (Passed coupleId m)
      (fun _ _ _ taken kept => passed_step answerable (List.mem_of_mem_filter own) taken kept)
      moved_on passed
    have once := completes.all_once _ z whole ended m (by rw [passed_z.couple]; exact own)
    rw [List.count_eq_zero_of_not_mem passed_z.missing] at once
    simp at once

/-- Scrolling back gives every message once exactly when the boundaries of the pages meet no ties and
    no timestamp that the server rejects as a bound. -/
theorem completes_iff_unsplit : Completes cipher s coupleId userId ↔
    ∀ k, UnsplitAt (descending ChatMessage.sentAtMs (history s coupleId)) k :=
  ⟨unsplit_of_completes answerable, completes_of_unsplit answerable⟩

end Runs

section Sample

def sampleMessage (i : Nat) (sentAtMs : Int) : ChatMessage where
  id := [UInt16.ofNat (i + 1)]
  coupleId := js "couple"
  senderUserId := js "me"
  kind := .text
  ciphertext := js "hi"
  iv := []
  tag := [1, 0]
  keyVersion := 1
  thumbnailUrl := none
  createdAt := ⟨0, by decide⟩
  sentAtMs := sentAtMs

/-- One message more than the initial page has. -/
def sampleStore (time : Nat → Int) : Store where
  members := [⟨js "couple", js "me"⟩]
  messages := (List.range 51).map fun i => sampleMessage i (time i)
  queue := []

theorem sample_answerable (time : Nat → Int) :
    Answerable plainCipher (sampleStore time) (js "couple") (js "me") where
  member := rfl
  readable _ _ := rfl
  once := by
    have ids : (sampleStore time).messages.map ChatMessage.id =
        (List.range 51).map fun i => [UInt16.ofNat (i + 1)] := by
      rw [sampleStore, List.map_map]
      rfl
    rw [ids]
    decide +kernel
  filled m mem := by
    obtain ⟨i, _, rfl⟩ := List.mem_map.mp mem
    simp [sampleMessage]

theorem distinct_times_complete :
    Completes plainCipher (sampleStore fun i => i + 1) (js "couple") (js "me") := by
  refine (completes_iff_unsplit (sample_answerable fun i => i + 1)).mpr ?_
  intro k last at_last
  cases k with
  | zero =>
    have times : (descending ChatMessage.sentAtMs (history (sampleStore fun i => i + 1)
        (js "couple")))[boundary 0 - 1]? = some 2 := by decide +kernel
    rw [← Option.some.inj (times.symm.trans at_last)]
    exact ⟨by decide, by decide +kernel⟩
  | succ k =>
    have inside := (List.getElem?_eq_some_iff.mp at_last).1
    rw [descending_length] at inside
    have short : (history (sampleStore fun i => i + 1) (js "couple")).length = 51 := by
      decide +kernel
    simp only [boundary, INITIAL_BATCH, LOAD_BATCH] at inside
    omega

/-- The initial page leaves out a message with the timestamp at which the next page stops. -/
theorem equal_times_skip_message :
    ¬ ∀ cipher s coupleId userId, Answerable cipher s coupleId userId →
      Completes cipher s coupleId userId := by
  intro every
  have completes := every plainCipher (sampleStore fun _ => 1) _ _ (sample_answerable fun _ => 1)
  have tie := unsplit_of_completes (sample_answerable fun _ => 1) completes 0 1 (by decide +kernel)
  exact tie.2 (by decide +kernel)

end Sample

end ChatScroll
