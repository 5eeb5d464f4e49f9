import Linkly.RouteOverlap
import Linkly.TextSearch

/-!
Which decorations of a station name `normalizeStationName` ignores.
-/
namespace StationNames
open RouteOverlap JsText TextSearch

def brackets : JsString := js "[]()（）"

/-- What `normalizeStationName` looks at for the suffix. -/
def cleaned (name : JsString) : JsString :=
  (dropLineNumbers 0 (name.filter fun u => !isBlank u)).filter (· ∉ brackets)

/-- `[（(]\d*호선[)）]` -/
def LineLabel (label : JsString) : Prop :=
  ∃ opening digits closing, label = opening :: (digits ++ js "호선" ++ [closing]) ∧
    opening ∈ openParens ∧ (∀ u ∈ digits, isDigit u = true) ∧ closing ∈ closeParens

theorem normalize_eq (name : JsString) : normalizeStationName name =
    if js "역" <:+ cleaned name then cleaned name else cleaned name ++ js "역" := rfl

/-- The cleaned name without the suffix that it may have. -/
def stem (name : JsString) : JsString :=
  if js "역" <:+ cleaned name then (cleaned name).dropLast else cleaned name

theorem stem_suffix (name : JsString) : stem name ++ js "역" = normalizeStationName name := by
  have suffix_unit : js "역" = [unit '역'] := by decide
  rw [stem, normalize_eq]
  split
  · rename_i ends
    obtain ⟨front, whole⟩ := ends
    rw [← whole, suffix_unit, List.dropLast_concat]
  · rfl

/-- Two stations have the same normalized name exactly when their names have the same stem. -/
theorem normalized_same_iff (name other : JsString) :
    normalizeStationName name = normalizeStationName other ↔ stem name = stem other := by
  rw [← stem_suffix, ← stem_suffix]
  exact List.append_left_inj _

theorem drop_eq_remove (skip : Nat) (text : JsString) :
    dropLineNumbers skip text = removeMatches lineNumberLength skip text := by
  induction text generalizing skip with
  | nil => rfl
  | cons u text ih =>
    rw [dropLineNumbers, removeMatches]
    split
    · exact ih (skip - 1)
    · cases lineNumberLength (u :: text) with
      | none => exact congrArg (u :: ·) (ih 0)
      | some length => exact ih (length - 1)

theorem ho_no_digit : isDigit (unit '호') = false := by decide

/-- What `lineNumberLength` finds is a label at the start, with its length. -/
theorem line_number_iff {text : JsString} {length : Nat} : lineNumberLength text = some length ↔
    ∃ label, LineLabel label ∧ label <+: text ∧ label.length = length := by
  cases text with
  | nil =>
    constructor
    · intro found
      simp [lineNumberLength] at found
    · rintro ⟨label, ⟨opening, digits, closing, rfl, _⟩, begins, _⟩
      simp at begins
  | cons first rest =>
    simp only [lineNumberLength]
    constructor
    · intro found
      split_ifs at found with opens
      split at found
      · rename_i ho seon last more dropped
        split_ifs at found with spelled
        obtain ⟨line, closes⟩ := spelled
        refine ⟨first :: (rest.takeWhile isDigit ++ js "호선" ++ [last]),
          ⟨first, rest.takeWhile isDigit, last, rfl, opens, ?_, closes⟩, ?_, ?_⟩
        · exact List.all_eq_true.mp List.all_takeWhile
        · refine List.cons_prefix_cons.mpr ⟨rfl, more, ?_⟩
          have whole := List.takeWhile_append_dropWhile (p := isDigit) (l := rest)
          rw [dropped] at whole
          rw [← line]
          simpa using whole
        · have size : (js "호선").length = 2 := by decide
          rw [← Option.some.inj found]
          simp [size]
          omega
      · simp at found
    · rintro ⟨label, ⟨opening, digits, closing, rfl, opens, all_digits, closes⟩, begins, rfl⟩
      obtain ⟨rfl, more, rfl⟩ := List.cons_prefix_cons.mp begins
      have word : js "호선" = [unit '호', unit '선'] := by decide
      have dropped : (digits ++ js "호선" ++ [closing] ++ more).dropWhile isDigit =
          unit '호' :: unit '선' :: closing :: more := by
        rw [word, List.append_assoc, List.append_assoc, List.dropWhile_append_of_pos all_digits]
        simp [ho_no_digit]
      have taken : (digits ++ js "호선" ++ [closing] ++ more).takeWhile isDigit = digits := by
        rw [word, List.append_assoc, List.append_assoc, List.takeWhile_append_of_pos all_digits]
        simp [ho_no_digit]
      rw [if_pos opens, dropped, taken]
      simp [closes, word]
      omega

/-- The units that a label has behind its first one. -/
def innerUnit (u : UInt16) : Bool := isDigit u || u ∈ js "호선" || u ∈ closeParens

theorem inner_of_mem {label : JsString} (labelled : LineLabel label) {u : UInt16}
    (mem : u ∈ label.tail) : innerUnit u = true := by
  obtain ⟨opening, digits, closing, rfl, _, all_digits, closes⟩ := labelled
  simp only [List.tail_cons, List.mem_append, List.mem_singleton] at mem
  simp only [innerUnit, Bool.or_eq_true, decide_eq_true_eq]
  rcases mem with (digit | word) | rfl
  · exact Or.inl (Or.inl (all_digits u digit))
  · exact Or.inl (Or.inr word)
  · exact Or.inr closes

theorem opening_not_inner {u : UInt16} (opens : u ∈ openParens) : innerUnit u = false := by
  have none_inner : openParens.all (fun u => !innerUnit u) = true := by decide
  simpa using List.all_eq_true.mp none_inner u opens

/-- A label reaches behind a text only into units that it may have inside. -/
theorem line_number_before {sep : UInt16} (outside : innerUnit sep = false) (u : UInt16)
    (rest more : JsString) :
    lineNumberLength (u :: rest ++ sep :: more) = lineNumberLength (u :: rest) := by
  refine Option.ext fun length => ?_
  rw [line_number_iff, line_number_iff]
  refine exists_congr fun label => and_congr_right fun labelled => and_congr_left' ?_
  have absent : sep ∉ label.tail := by
    intro mem
    rw [inner_of_mem labelled mem] at outside
    simp at outside
  obtain ⟨opening, digits, closing, rfl, _⟩ := labelled
  rw [List.tail_cons] at absent
  rw [List.cons_append, List.cons_prefix_cons, List.cons_prefix_cons, prefix_before absent]

theorem line_number_within (rest : JsString) (length : Nat)
    (found : lineNumberLength rest = some length) : length ≤ rest.length := by
  obtain ⟨label, _, begins, rfl⟩ := line_number_iff.mp found
  exact begins.length_le

theorem line_number_free {rest : JsString} (free : ∀ u ∈ openParens, u ∉ rest) :
    lineNumberLength rest = none := by
  refine Option.eq_none_iff_forall_ne_some.mpr fun length found => ?_
  obtain ⟨label, ⟨opening, digits, closing, rfl, opens, _⟩, begins, _⟩ := line_number_iff.mp found
  exact free opening opens (begins.subset List.mem_cons_self)

theorem drop_append {sep : UInt16} (outside : innerUnit sep = false) (text more : JsString) :
    dropLineNumbers 0 (text ++ sep :: more) =
      dropLineNumbers 0 text ++ dropLineNumbers 0 (sep :: more) := by
  simp only [drop_eq_remove]
  exact remove_append (fun u rest _ => line_number_before outside u rest more)
    line_number_within 0 (Nat.zero_le _)

theorem drop_free {text : JsString} (free : ∀ u ∈ openParens, u ∉ text) :
    dropLineNumbers 0 text = text := by
  rw [drop_eq_remove]
  exact remove_none fun rest tail => line_number_free fun u opens mem =>
    free u opens (tail.subset mem)

theorem drop_label {label : JsString} (labelled : LineLabel label) :
    dropLineNumbers 0 label = [] := by
  have matched : lineNumberLength (label ++ []) = some label.length :=
    line_number_iff.mpr ⟨label, labelled, by simp, rfl⟩
  have present : label ≠ [] := by
    obtain ⟨opening, digits, closing, rfl, _⟩ := labelled
    simp
  have removed := remove_match present matched
  rw [List.append_nil] at removed
  rw [drop_eq_remove, removed]
  rfl

theorem digit_dark {u : UInt16} (digit : isDigit u = true) : isBlank u = false := by
  rw [Bool.eq_false_iff]
  intro blank
  simp only [isDigit, isBlank, Bool.and_eq_true, Bool.or_eq_true, decide_eq_true_eq,
    UInt16.le_iff_toNat_le, ← UInt16.toNat_inj] at digit blank
  simp at digit blank
  omega

theorem label_spaceless {label : JsString} (labelled : LineLabel label) :
    label.filter (fun u => !isBlank u) = label := by
  have dark_parts : (openParens ++ js "호선" ++ closeParens).all (fun u => !isBlank u) = true := by
    decide
  have dark : ∀ u ∈ openParens ++ js "호선" ++ closeParens, isBlank u = false := by
    simpa only [List.all_eq_true, Bool.not_eq_true'] using dark_parts
  obtain ⟨opening, digits, closing, rfl, opens, all_digits, closes⟩ := labelled
  refine List.filter_eq_self.mpr fun u mem => ?_
  rw [Bool.not_eq_true']
  rcases List.mem_cons.mp mem with rfl | inner
  · exact dark u (List.mem_append_left _ (List.mem_append_left _ opens))
  · rcases List.mem_append.mp inner with front | last
    · rcases List.mem_append.mp front with digit | word
      · exact digit_dark (all_digits u digit)
      · exact dark u (List.mem_append_left _ (List.mem_append_right _ word))
    · rw [List.mem_singleton.mp last]
      exact dark closing (List.mem_append_right _ closes)

/-- What is appended behind a unit that no label has inside is cleaned by itself. -/
theorem cleaned_append {sep : UInt16} (outside : innerUnit sep = false) {more : JsString}
    (spaceless : (sep :: more).filter (fun u => !isBlank u) = sep :: more) (name : JsString) :
    cleaned (name ++ sep :: more) =
      cleaned name ++ (dropLineNumbers 0 (sep :: more)).filter (· ∉ brackets) := by
  rw [cleaned, List.filter_append, spaceless, drop_append outside, List.filter_append, cleaned]

theorem cleaned_label {label : JsString} (labelled : LineLabel label) (name : JsString) :
    cleaned (name ++ label) = cleaned name := by
  have dropped := drop_label labelled
  have spaceless := label_spaceless labelled
  obtain ⟨opening, digits, closing, rfl, opens, _⟩ := labelled
  rw [cleaned_append (opening_not_inner opens) spaceless, dropped]
  exact List.append_nil _

theorem cleaned_suffix (name : JsString) : cleaned (name ++ js "역") = cleaned name ++ js "역" := by
  have suffix_unit : js "역" = [unit '역'] := by decide
  have kept : (dropLineNumbers 0 [unit '역']).filter (· ∉ brackets) = [unit '역'] := by decide
  rw [suffix_unit, cleaned_append (by decide) (by decide), kept]

theorem plain_of_mem_cleaned {name : JsString} {u : UInt16} (mem : u ∈ cleaned name) :
    isBlank u = false ∧ u ∉ brackets := by
  rw [cleaned, drop_eq_remove] at mem
  obtain ⟨kept, outside⟩ := List.mem_filter.mp mem
  have dark := (List.mem_filter.mp ((remove_sublist 0 _).subset kept)).2
  exact ⟨by simpa using dark, by simpa using outside⟩

theorem cleaned_plain {text : JsString} (plain : ∀ u ∈ text, isBlank u = false ∧ u ∉ brackets) :
    cleaned text = text := by
  have opening_bracket : openParens.all (· ∈ brackets) = true := by decide
  have spaceless : text.filter (fun u => !isBlank u) = text :=
    List.filter_eq_self.mpr fun u mem => by simp [(plain u mem).1]
  have free : ∀ u ∈ openParens, u ∉ text := by
    intro u opens mem
    exact (plain u mem).2 (by simpa using List.all_eq_true.mp opening_bracket u opens)
  rw [cleaned, spaceless, drop_free free]
  exact List.filter_eq_self.mpr fun u mem => by simp [(plain u mem).2]

theorem plain_of_mem_normalized {name : JsString} {u : UInt16}
    (mem : u ∈ normalizeStationName name) : isBlank u = false ∧ u ∉ brackets := by
  rw [normalize_eq] at mem
  split at mem
  · exact plain_of_mem_cleaned mem
  · rcases List.mem_append.mp mem with front | last
    · exact plain_of_mem_cleaned front
    · have plain : (js "역").all (fun u => !isBlank u && u ∉ brackets) = true := by decide
      simpa using List.all_eq_true.mp plain u last

theorem suffix_normalized (name : JsString) : js "역" <:+ normalizeStationName name :=
  ⟨stem name, stem_suffix name⟩

theorem normalize_idempotent (name : JsString) :
    normalizeStationName (normalizeStationName name) = normalizeStationName name := by
  rw [normalize_eq (normalizeStationName name), cleaned_plain fun u => plain_of_mem_normalized,
    if_pos (suffix_normalized name)]

theorem normalize_blanks (front back : JsString) {blanks : JsString}
    (blank : ∀ u ∈ blanks, isBlank u = true) :
    normalizeStationName (front ++ blanks ++ back) = normalizeStationName (front ++ back) := by
  have gone : blanks.filter (fun u => !isBlank u) = [] :=
    List.filter_eq_nil_iff.mpr fun u mem => by simp [blank u mem]
  have same : cleaned (front ++ blanks ++ back) = cleaned (front ++ back) := by
    simp only [cleaned, List.filter_append, gone, List.append_nil]
  rw [normalize_eq, normalize_eq, same]

theorem normalize_label {label : JsString} (labelled : LineLabel label) (name : JsString) :
    normalizeStationName (name ++ label) = normalizeStationName name := by
  rw [normalize_eq, normalize_eq, cleaned_label labelled]

theorem normalize_suffix {name : JsString} (without : ¬ js "역" <:+ cleaned name) :
    normalizeStationName (name ++ js "역") = normalizeStationName name := by
  rw [normalize_eq, normalize_eq, if_neg without, cleaned_suffix,
    if_pos (List.suffix_append ..)]

theorem decorations_ignored :
    (∀ name, normalizeStationName (normalizeStationName name) = normalizeStationName name) ∧
    (∀ front blanks back, (∀ u ∈ blanks, isBlank u = true) →
      normalizeStationName (front ++ blanks ++ back) = normalizeStationName (front ++ back)) ∧
    (∀ name label, LineLabel label →
      normalizeStationName (name ++ label) = normalizeStationName name) ∧
    ∀ name, ¬ js "역" <:+ cleaned name →
      normalizeStationName (name ++ js "역") = normalizeStationName name :=
  ⟨normalize_idempotent, fun front _ back blank => normalize_blanks front back blank,
    fun name _ labelled => normalize_label labelled name, fun _ without => normalize_suffix without⟩

theorem gangnam_decorated :
    normalizeStationName (js "강" ++ js " \t" ++ js "남") = normalizeStationName (js "강" ++ js "남") ∧
    normalizeStationName (js "강남" ++ js "（22호선)") = normalizeStationName (js "강남") ∧
    normalizeStationName (js "[강남" ++ js "역") = normalizeStationName (js "[강남") := by
  have labelled : LineLabel (js "（22호선)") :=
    ⟨unit '（', [unit '2', unit '2'], unit ')', by decide, by decide, by simp; decide, by decide⟩
  have blank : ∀ u ∈ js " \t", isBlank u = true := List.all_eq_true.mp (by decide)
  exact ⟨decorations_ignored.2.1 _ _ _ blank, decorations_ignored.2.2.1 _ _ labelled,
    decorations_ignored.2.2.2 _ (by decide)⟩

end StationNames
