import Linkly.JsonText
import Linkly.TransitKeys
import Linkly.UniqueReading
import Mathlib.Data.List.Nodup
import Mathlib.Data.List.Sort

/-!
`stableStringify` on JSON values whose keys are made of ASCII letters and digits, and the text that
the cache key of a request hashes. Numbers are a type parameter, in which zero has no sign, with
their texts; `localeCompare` is a parameter as well.
-/
namespace StableStringify
open JsonText JsText UniqueReading

def isAlphanumeric (u : UInt16) : Bool :=
  isDigit u || (65 ≤ u && u ≤ 90) || (97 ≤ u && u ≤ 122)

structure Key where
  text : JsString
  plain : text.all isAlphanumeric = true
  deriving DecidableEq

theorem key_ext {a b : Key} (texts : a.text = b.text) : a = b := by
  cases a
  cases b
  simp only at texts
  subst texts
  rfl

inductive Value (Num : Type) where
  | null
  | bool (value : Bool)
  | number (value : Num)
  | string (text : JsString)
  | array (items : List (Value Num))
  | object (members : List (Key × Value Num))

variable {Num : Type}

/-- No object has a key twice. -/
inductive Distinct : Value Num → Prop where
  | null : Distinct .null
  | bool (value : Bool) : Distinct (.bool value)
  | number (value : Num) : Distinct (.number value)
  | string (text : JsString) : Distinct (.string text)
  | array {items : List (Value Num)} (each : ∀ item ∈ items, Distinct item) :
    Distinct (.array items)
  | object {members : List (Key × Value Num)} (keys : (members.map Prod.fst).Nodup)
    (each : ∀ member ∈ members, Distinct member.2) : Distinct (.object members)

structure JsonValue (Num : Type) where
  value : Value Num
  distinct : Distinct value

/-- Equality up to the order of keys: objects have the same keys, and the same under each. -/
inductive Same : Value Num → Value Num → Prop where
  | null : Same .null .null
  | bool (value : Bool) : Same (.bool value) (.bool value)
  | number (value : Num) : Same (.number value) (.number value)
  | string (text : JsString) : Same (.string text) (.string text)
  | array {items others : List (Value Num)} (length : items.length = others.length)
    (each : ∀ item other, (item, other) ∈ items.zip others → Same item other) :
    Same (.array items) (.array others)
  | object {members others : List (Key × Value Num)}
    (keys : (members.map Prod.fst).Perm (others.map Prod.fst))
    (each : ∀ member ∈ members, ∀ other ∈ others, member.1 = other.1 →
      Same member.2 other.2) : Same (.object members) (.object others)

section Stringify
variable (numberText : Num → JsString) (localeCompare : JsString → JsString → Int)

/-- The sort puts an entry in front of another one unless that one compares as less. -/
def Before {V : Type} (a b : Key × V) : Prop := ¬ localeCompare b.1.text a.1.text < 0

instance {V : Type} : DecidableRel (Before (V := V) localeCompare) :=
  fun _ _ => inferInstanceAs (Decidable (¬ _ < _))

/-- The key is not escaped. -/
def entryText (entry : Key × JsString) : JsString :=
  quotation :: entry.1.text ++ quotation :: unit ':' :: entry.2

mutual
/-- The values of an object are written before its entries are sorted, which looks at keys only. -/
def stableStringify : Value Num → JsString
  | .null => js "null"
  | .bool value => if value then js "true" else js "false"
  | .number value => numberText value
  | .string text => quote text
  | .array items => unit '[' :: separated (unit ',') (stringifyItems items) ++ [unit ']']
  | .object members =>
    openBrace :: separated (unit ',')
      (((stringifyMembers members).insertionSort (Before localeCompare)).map entryText) ++
        [closeBrace]
def stringifyItems : List (Value Num) → List JsString
  | [] => []
  | item :: items => stableStringify item :: stringifyItems items
def stringifyMembers : List (Key × Value Num) → List (Key × JsString)
  | [] => []
  | (key, value) :: members => (key, stableStringify value) :: stringifyMembers members
end

theorem items_eq_map (items : List (Value Num)) :
    stringifyItems numberText localeCompare items =
      items.map (stableStringify numberText localeCompare) := by
  induction items with
  | nil => rfl
  | cons item items ih => rw [stringifyItems, ih, List.map_cons]

theorem members_eq_map (members : List (Key × Value Num)) :
    stringifyMembers numberText localeCompare members = members.map fun member =>
      (member.1, stableStringify numberText localeCompare member.2) := by
  induction members with
  | nil => rfl
  | cons member members ih => rw [stringifyMembers, ih, List.map_cons]

def memberText (member : Key × Value Num) : JsString :=
  entryText (member.1, stableStringify numberText localeCompare member.2)

theorem array_text (items : List (Value Num)) :
    stableStringify numberText localeCompare (.array items) = unit '[' ::
      separated (unit ',') (items.map (stableStringify numberText localeCompare)) ++
        [unit ']'] := by
  rw [stableStringify, items_eq_map]

/-- An object is written as in the source: its entries are sorted, and then each one is written. -/
theorem object_text (members : List (Key × Value Num)) :
    stableStringify numberText localeCompare (.object members) = openBrace ::
      separated (unit ',') ((members.insertionSort (Before localeCompare)).map
        (memberText numberText localeCompare)) ++ [closeBrace] := by
  have sorted_values : (members.insertionSort (Before localeCompare)).map
        (fun member => (member.1, stableStringify numberText localeCompare member.2)) =
      (members.map fun member =>
        (member.1, stableStringify numberText localeCompare member.2)).insertionSort
          (Before localeCompare) :=
    List.map_insertionSort _ _ _ members fun _ _ _ _ => Iff.rfl
  rw [stableStringify, members_eq_map, ← sorted_values, List.map_map]
  rfl

end Stringify

/-- `localeCompare` is a strict total order on keys. -/
structure OrdersKeys (localeCompare : JsString → JsString → Int) : Prop where
  irrefl : ∀ a : Key, ¬ localeCompare a.text a.text < 0
  trans : ∀ a b c : Key, localeCompare a.text b.text < 0 → localeCompare b.text c.text < 0 →
    localeCompare a.text c.text < 0
  total : ∀ a b : Key, a ≠ b → localeCompare a.text b.text < 0 ∨ localeCompare b.text a.text < 0

def isNumberUnit (u : UInt16) : Bool := isDigit u || u ∈ js "+-.e"

/-- Numbers are read back from their texts, which have digits, signs, a point and an exponent. -/
structure WritesNumbers (numberText : Num → JsString) : Prop where
  injective : Function.Injective numberText
  filled : ∀ n, numberText n ≠ []
  units : ∀ n, ∀ u ∈ numberText n, isNumberUnit u = true

/-- The units that may follow a value. -/
def follows (u : UInt16) : Bool := u ∈ js ",]\x7d"

/-- The kinds of values that can be told by the first unit. -/
def kind : Value Num → Nat
  | .string _ => 1
  | .array _ => 2
  | .object _ => 3
  | _ => 0

def kindOfUnit (u : UInt16) : Nat :=
  if u = quotation then 1 else if u = unit '[' then 2 else if u = openBrace then 3 else 0

theorem number_unit_ordinary {u : UInt16} (number : isNumberUnit u = true) :
    u ∉ js "\",]\x7d[\x7bntf" := by
  have none_number : (js "\",]\x7d[\x7bntf").all (fun v => !isNumberUnit v) = true := by decide
  intro special
  have other := List.all_eq_true.mp none_number u special
  rw [number] at other
  simp at other

section Reading
variable {numberText : Num → JsString} {localeCompare : JsString → JsString → Int}

theorem number_unit_plain {u : UInt16} (number : isNumberUnit u = true) :
    follows u = false ∧ kindOfUnit u = 0 := by
  have ordinary := number_unit_ordinary number
  have units : js "\",]\x7d[\x7bntf" = [quotation, unit ',', unit ']', closeBrace, unit '[',
    openBrace, unit 'n', unit 't', unit 'f'] := by decide
  have followers : js ",]\x7d" = [unit ',', unit ']', closeBrace] := by decide
  rw [units] at ordinary
  simp only [List.mem_cons, List.not_mem_nil, or_false, not_or] at ordinary
  simp [follows, kindOfUnit, followers, ordinary]

/-- The first unit of a text tells the kind of its value. -/
theorem text_starts (localeCompare : JsString → JsString → Int)
    (numbers : WritesNumbers numberText) (v : Value Num) : ∃ u text,
    stableStringify numberText localeCompare v = u :: text ∧ follows u = false ∧
      kindOfUnit u = kind v := by
  have word : ∀ u ∈ js "ntf", follows u = false ∧ kindOfUnit u = 0 := by
    have words : (js "ntf").all (fun u => follows u = false ∧ kindOfUnit u = 0) = true := by decide
    simpa only [List.all_eq_true, decide_eq_true_eq] using words
  cases v with
  | null =>
    have written : js "null" = unit 'n' :: js "ull" := by decide
    exact ⟨_, _, written, word _ (by decide)⟩
  | bool value =>
    cases value with
    | true =>
      have written : js "true" = unit 't' :: js "rue" := by decide
      exact ⟨_, _, written, word _ (by decide)⟩
    | false =>
      have written : js "false" = unit 'f' :: js "alse" := by decide
      exact ⟨_, _, written, word _ (by decide)⟩
  | number n =>
    obtain ⟨u, text, written⟩ := List.exists_cons_of_ne_nil (numbers.filled n)
    exact ⟨u, text, written, number_unit_plain (numbers.units n u (by simp [written]))⟩
  | string text => exact ⟨quotation, _, rfl, by decide, rfl⟩
  | array items =>
    have tells : kindOfUnit (unit '[') = 2 := by decide
    exact ⟨unit '[', _, rfl, by decide, tells⟩
  | object members =>
    have tells : kindOfUnit openBrace = 3 := by decide
    exact ⟨openBrace, _, rfl, by decide, tells⟩

theorem kind_of_text (numbers : WritesNumbers numberText) {v w : Value Num} {rest more : JsString}
    (same : stableStringify numberText localeCompare v ++ rest =
      stableStringify numberText localeCompare w ++ more) : kind v = kind w := by
  obtain ⟨u, text, written, _, tells⟩ := text_starts localeCompare numbers v
  obtain ⟨u', text', written', _, tells'⟩ := text_starts localeCompare numbers w
  rw [written, written', List.cons_append, List.cons_append] at same
  rw [← tells, ← tells', (List.cons.inj same).1]

theorem scalar_plain (numbers : WritesNumbers numberText) {v : Value Num} (scalar : kind v = 0) :
    ∀ u ∈ stableStringify numberText localeCompare v, follows u = false := by
  have words : ∀ u ∈ js "null" ++ js "true" ++ js "false", follows u = false := by
    have all : (js "null" ++ js "true" ++ js "false").all (fun u => follows u = false) = true := by
      decide
    simpa only [List.all_eq_true, decide_eq_true_eq] using all
  intro u mem
  cases v with
  | null => exact words u (List.mem_append_left _ (List.mem_append_left _ mem))
  | bool value =>
    cases value with
    | true => exact words u (List.mem_append_left _ (List.mem_append_right _ mem))
    | false => exact words u (List.mem_append_right _ mem)
  | number n => exact (number_unit_plain (numbers.units n u mem)).1
  | string _ | array _ | object _ => simp [kind] at scalar

/-- No number is written like a word. -/
theorem number_no_word (numbers : WritesNumbers numberText) (n : Num) {word : JsString} {u : UInt16}
    (mem : u ∈ word) (letter : u ∈ js "ntf") : numberText n ≠ word := by
  rintro rfl
  have ordinary := number_unit_ordinary (numbers.units n u mem)
  have units : js "\",]\x7d[\x7bntf" = js "\",]\x7d[\x7b" ++ js "ntf" := by decide
  rw [units] at ordinary
  exact ordinary (List.mem_append_right _ letter)

theorem scalar_same (numbers : WritesNumbers numberText) {v w : Value Num} (scalar_v : kind v = 0)
    (scalar_w : kind w = 0) (same : stableStringify numberText localeCompare v =
      stableStringify numberText localeCompare w) : Same v w := by
  have no_null : ∀ n, numberText n ≠ js "null" := fun n =>
    number_no_word numbers n (by decide : unit 'n' ∈ js "null") (by decide)
  have no_bool : ∀ n (value : Bool), numberText n ≠ if value then js "true" else js "false" := by
    intro n value
    cases value with
    | true => exact number_no_word numbers n (by decide : unit 't' ∈ js "true") (by decide)
    | false => exact number_no_word numbers n (by decide : unit 'f' ∈ js "false") (by decide)
  have null_bool : ∀ value : Bool, js "null" ≠ if value then js "true" else js "false" := by decide
  have bools : ∀ value other : Bool, (if value then js "true" else js "false") =
      (if other then js "true" else js "false") → value = other := by decide
  cases v with
  | null =>
    cases w with
    | null => exact Same.null
    | bool other => exact absurd same (null_bool other)
    | number other => exact absurd same.symm (no_null other)
    | string _ | array _ | object _ => simp [kind] at scalar_w
  | bool value =>
    cases w with
    | null => exact absurd same.symm (null_bool value)
    | bool other => exact bools value other same ▸ Same.bool value
    | number other => exact absurd same.symm (no_bool other value)
    | string _ | array _ | object _ => simp [kind] at scalar_w
  | number n =>
    cases w with
    | null => exact absurd same (no_null n)
    | bool other => exact absurd same (no_bool n other)
    | number other => exact numbers.injective same ▸ Same.number n
    | string _ | array _ | object _ => simp [kind] at scalar_w
  | string _ | array _ | object _ => simp [kind] at scalar_v

theorem scalar_read_back (numbers : WritesNumbers numberText) {v : Value Num}
    (scalar : kind v = 0) :
    ReadBack follows (stableStringify numberText localeCompare) Same v := by
  intro w rest more rest_stops more_stops same
  have scalar_w : kind w = 0 := (kind_of_text numbers same).symm.trans scalar
  obtain ⟨texts, rests⟩ := token_append_injective (scalar_plain numbers scalar)
    (scalar_plain numbers scalar_w) rest_stops more_stops same
  exact ⟨scalar_same numbers scalar scalar_w texts, rests⟩

theorem comma_follows : follows (unit ',') = true := by decide

theorem key_no_quotation (key : Key) : quotation ∉ key.text := by
  intro mem
  have plain := List.all_eq_true.mp key.plain quotation mem
  have special : isAlphanumeric quotation = false := by decide
  rw [special] at plain
  simp at plain

/-- A member can be read back if its value can. -/
theorem member_read_back {member : Key × Value Num}
    (read : ReadBack follows (stableStringify numberText localeCompare) Same member.2) :
    ReadBack follows (memberText numberText localeCompare)
      (fun member other => member.1 = other.1 ∧ Same member.2 other.2) member := by
  intro other rest more rest_stops more_stops same
  simp only [memberText, entryText, List.cons_append, List.append_assoc] at same
  obtain ⟨texts, values⟩ := before_separator_injective (key_no_quotation member.1)
    (key_no_quotation other.1) (List.cons.inj same).2
  obtain ⟨value_same, rests⟩ := read other.2 rest more rest_stops more_stops
    (List.cons.inj values).2
  exact ⟨⟨key_ext texts, value_same⟩, rests⟩

theorem keys_of_same_members {members others : List (Key × Value Num)}
    (all : List.Forall₂ (fun member other => member.1 = other.1 ∧ Same member.2 other.2)
      members others) : members.map Prod.fst = others.map Prod.fst := by
  induction all with
  | nil => rfl
  | cons first _ ih => rw [List.map_cons, List.map_cons, first.1, ih]

theorem same_member_of_key {V : Type} {members : List (Key × V)}
    (distinct : (members.map Prod.fst).Nodup) {a b : Key × V} (mem_a : a ∈ members)
    (mem_b : b ∈ members) (key : a.1 = b.1) : a = b :=
  List.inj_on_of_nodup_map distinct mem_a mem_b key

/-- Objects whose sorted members are the same are the same up to the order of keys. -/
theorem same_object {members others sorted sorted_others : List (Key × Value Num)}
    (distinct : (members.map Prod.fst).Nodup) (perm : sorted.Perm members)
    (perm_others : sorted_others.Perm others)
    (all : List.Forall₂ (fun member other => member.1 = other.1 ∧ Same member.2 other.2)
      sorted sorted_others) : Same (.object members) (.object others) := by
  have keys : (members.map Prod.fst).Perm (others.map Prod.fst) := by
    have sorted_keys := keys_of_same_members all
    exact (perm.map Prod.fst).symm.trans (sorted_keys ▸ perm_others.map Prod.fst)
  refine Same.object keys fun member mem other other_mem key => ?_
  obtain ⟨partner, partner_mem, same_key, same_value⟩ := partner_of_mem all (perm.mem_iff.mpr mem)
  have only : partner = other := same_member_of_key (keys.nodup_iff.mp distinct)
    (perm_others.mem_iff.mp partner_mem) other_mem (same_key.symm.trans key)
  exact only ▸ same_value

theorem string_read_back (numbers : WritesNumbers numberText) (text : JsString) :
    ReadBack follows (stableStringify numberText localeCompare) Same (.string text) := by
  intro w rest more _ _ same
  have kinds := kind_of_text numbers same
  cases w with
  | string other =>
    obtain ⟨rfl, rests⟩ := quote_append_injective same
    exact ⟨Same.string text, rests⟩
  | null | bool _ | number _ | array _ | object _ => simp [kind] at kinds

theorem array_read_back (numbers : WritesNumbers numberText) {items : List (Value Num)}
    (each : ∀ item ∈ items, ReadBack follows (stableStringify numberText localeCompare) Same item) :
    ReadBack follows (stableStringify numberText localeCompare) Same (.array items) := by
  intro w rest more _ _ same
  have kinds := kind_of_text numbers same
  cases w with
  | array others =>
    rw [array_text, array_text] at same
    simp only [List.cons_append, List.append_assoc, List.nil_append] at same
    have starts : ∀ item : Value Num, ∃ u text,
        stableStringify numberText localeCompare item = u :: text ∧ u ≠ unit ']' := by
      intro item
      obtain ⟨u, text, written, free, _⟩ := text_starts localeCompare numbers item
      refine ⟨u, text, written, ?_⟩
      rintro rfl
      exact absurd free (by decide)
    obtain ⟨all, rests⟩ := separated_read_back comma_follows (by decide) (by decide) starts each
      (List.cons.inj same).2
    obtain ⟨length, zipped⟩ := List.forall₂_iff_zip.mp all
    exact ⟨Same.array length fun _ _ mem => zipped mem, rests⟩
  | null | bool _ | number _ | string _ | object _ => simp [kind] at kinds

theorem object_read_back (numbers : WritesNumbers numberText) {members : List (Key × Value Num)}
    (distinct : (members.map Prod.fst).Nodup)
    (each : ∀ member ∈ members,
      ReadBack follows (stableStringify numberText localeCompare) Same member.2) :
    ReadBack follows (stableStringify numberText localeCompare) Same (.object members) := by
  intro w rest more _ _ same
  have kinds := kind_of_text numbers same
  cases w with
  | object others =>
    rw [object_text, object_text] at same
    simp only [List.cons_append, List.append_assoc, List.nil_append] at same
    have read : ∀ member ∈ members.insertionSort (Before localeCompare),
        ReadBack follows (memberText numberText localeCompare)
          (fun member other => member.1 = other.1 ∧ Same member.2 other.2) member :=
      fun member mem => member_read_back (each member ((List.mem_insertionSort _).mp mem))
    have starts : ∀ member : Key × Value Num, ∃ u text,
        memberText numberText localeCompare member = u :: text ∧ u ≠ closeBrace :=
      fun member => ⟨quotation, _, rfl, by decide⟩
    obtain ⟨all, rests⟩ := separated_read_back comma_follows (by decide) (by decide) starts read
      (List.cons.inj same).2
    exact ⟨same_object distinct (List.perm_insertionSort _ _) (List.perm_insertionSort _ _) all,
      rests⟩
  | null | bool _ | number _ | string _ | array _ => simp [kind] at kinds

/-- The text of a value is the text only of values that are the same up to the order of keys. -/
theorem value_read_back (numbers : WritesNumbers numberText) {v : Value Num}
    (distinct : Distinct v) :
    ReadBack follows (stableStringify numberText localeCompare) Same v := by
  induction distinct with
  | null => exact scalar_read_back numbers rfl
  | bool _ => exact scalar_read_back numbers rfl
  | number _ => exact scalar_read_back numbers rfl
  | string text => exact string_read_back numbers text
  | array _ each => exact array_read_back numbers each
  | object keys _ each => exact object_read_back numbers keys each

end Reading

/-- Entries with the same keys, and the same entry under each, are the same up to their order. -/
theorem entries_perm {V : Type} {entries others : List (Key × V)}
    (distinct : (entries.map Prod.fst).Nodup)
    (keys : (entries.map Prod.fst).Perm (others.map Prod.fst))
    (each : ∀ entry ∈ entries, ∀ other ∈ others, entry.1 = other.1 → entry = other) :
    entries.Perm others := by
  have other_distinct := keys.nodup_iff.mp distinct
  refine (List.perm_ext_iff_of_nodup distinct.of_map other_distinct.of_map).mpr fun entry => ?_
  constructor
  · intro mem
    obtain ⟨other, other_mem, key⟩ :=
      List.mem_map.mp (keys.mem_iff.mp (List.mem_map_of_mem mem))
    exact each entry mem other other_mem key.symm ▸ other_mem
  · intro mem
    obtain ⟨other, other_mem, key⟩ :=
      List.mem_map.mp (keys.mem_iff.mpr (List.mem_map_of_mem mem))
    exact each other other_mem entry mem key ▸ other_mem

section Sorting
variable {numberText : Num → JsString} {localeCompare : JsString → JsString → Int}
  (keys : OrdersKeys localeCompare)
include keys

theorem before_total {V : Type} (a b : Key × V) :
    Before localeCompare a b ∨ Before localeCompare b a := by
  by_contra neither
  obtain ⟨b_less, a_less⟩ := not_or.mp neither
  exact keys.irrefl a.1 (keys.trans _ b.1 _ (not_not.mp a_less) (not_not.mp b_less))

theorem before_trans {V : Type} (a b c : Key × V) (first : Before localeCompare a b)
    (second : Before localeCompare b c) : Before localeCompare a c := by
  intro c_less
  by_cases same : a.1 = b.1
  · exact second (same ▸ c_less)
  · rcases keys.total a.1 b.1 same with a_less | b_less
    · exact second (keys.trans _ a.1 _ c_less a_less)
    · exact first b_less

theorem before_antisymm {V : Type} {a b : Key × V} (first : Before localeCompare a b)
    (second : Before localeCompare b a) : a.1 = b.1 := by
  by_contra differs
  rcases keys.total a.1 b.1 differs with a_less | b_less
  · exact second a_less
  · exact first b_less

/-- The order in which an object lists its entries does not matter to the sort. -/
theorem sorted_eq {V : Type} {entries others : List (Key × V)}
    (distinct : (entries.map Prod.fst).Nodup) (perm : entries.Perm others) :
    entries.insertionSort (Before localeCompare) = others.insertionSort (Before localeCompare) := by
  have total : Std.Total (Before (V := V) localeCompare) := ⟨before_total keys⟩
  have trans : IsTrans (Key × V) (Before localeCompare) := ⟨before_trans keys⟩
  refine List.Perm.eq_of_pairwise ?_ (List.pairwise_insertionSort _ _)
    (List.pairwise_insertionSort _ _)
    ((List.perm_insertionSort _ _).trans (perm.trans (List.perm_insertionSort _ _).symm))
  intro a b mem_a mem_b first second
  exact same_member_of_key distinct ((List.mem_insertionSort _).mp mem_a)
    (perm.mem_iff.mpr ((List.mem_insertionSort _).mp mem_b)) (before_antisymm keys first second)

omit keys in
theorem array_text_same {items others : List (Value Num)} (length : items.length = others.length)
    (each : ∀ item other, (item, other) ∈ items.zip others →
      stableStringify numberText localeCompare item =
        stableStringify numberText localeCompare other) :
    stableStringify numberText localeCompare (.array items) =
      stableStringify numberText localeCompare (.array others) := by
  have texts : items.map (stableStringify numberText localeCompare) =
      others.map (stableStringify numberText localeCompare) := by
    rw [← List.forall₂_eq_eq_eq, List.forall₂_map_left_iff, List.forall₂_map_right_iff,
      List.forall₂_iff_zip]
    exact ⟨length, fun mem => each _ _ mem⟩
  rw [array_text, array_text, texts]

theorem object_text_same {members others : List (Key × Value Num)}
    (distinct : (members.map Prod.fst).Nodup)
    (perm : (members.map Prod.fst).Perm (others.map Prod.fst))
    (each : ∀ member ∈ members, ∀ other ∈ others, member.1 = other.1 →
      stableStringify numberText localeCompare member.2 =
        stableStringify numberText localeCompare other.2) :
    stableStringify numberText localeCompare (.object members) =
      stableStringify numberText localeCompare (.object others) := by
  have keys_kept : ∀ entries : List (Key × Value Num),
      (stringifyMembers numberText localeCompare entries).map Prod.fst =
        entries.map Prod.fst := by
    intro entries
    rw [members_eq_map, List.map_map]
    rfl
  have written : (stringifyMembers numberText localeCompare members).Perm
      (stringifyMembers numberText localeCompare others) := by
    refine entries_perm ((keys_kept members).symm ▸ distinct) ?_ ?_
    · rw [keys_kept, keys_kept]
      exact perm
    · rw [members_eq_map, members_eq_map]
      intro entry entry_mem other other_mem key
      obtain ⟨member, mem, rfl⟩ := List.mem_map.mp entry_mem
      obtain ⟨partner, partner_mem, rfl⟩ := List.mem_map.mp other_mem
      exact Prod.ext key (each member mem partner partner_mem key)
  rw [stableStringify, stableStringify,
    sorted_eq keys ((keys_kept members).symm ▸ distinct) written]

/-- Values that are the same up to the order of keys have one text. -/
theorem text_of_same {v w : Value Num} (same : Same v w) (distinct_v : Distinct v)
    (distinct_w : Distinct w) : stableStringify numberText localeCompare v =
      stableStringify numberText localeCompare w := by
  induction same with
  | null => rfl
  | bool _ => rfl
  | number _ => rfl
  | string _ => rfl
  | array length _ ih =>
    cases distinct_v with
    | array items_distinct =>
      cases distinct_w with
      | array others_distinct =>
        exact array_text_same length fun _ _ mem => ih _ _ mem
          (items_distinct _ (List.of_mem_zip mem).1) (others_distinct _ (List.of_mem_zip mem).2)
  | object perm _ ih =>
    cases distinct_v with
    | object keys_distinct members_distinct =>
      cases distinct_w with
      | object _ others_distinct =>
        exact object_text_same keys keys_distinct perm fun member mem other other_mem key =>
          ih member mem other other_mem key (members_distinct member mem)
            (others_distinct other other_mem)

end Sorting

section CacheKey
open TransitKeys TransitService
variable {localeCompare : JsString → JsString → Int}

def bucketMinutesKey : Key := ⟨js "bucketMinutes", rfl⟩
def bucketStartMsKey : Key := ⟨js "bucketStartMs", rfl⟩
def extraKeyDataKey : Key := ⟨js "extraKeyData", rfl⟩
def payloadKey : Key := ⟨js "payload", rfl⟩
def endXKey : Key := ⟨js "endX", rfl⟩
def endYKey : Key := ⟨js "endY", rfl⟩
def startXKey : Key := ⟨js "startX", rfl⟩
def startYKey : Key := ⟨js "startY", rfl⟩

/-- The payload without its time. -/
def payloadValue (c : Coordinates) : Value Int :=
  .object [(startXKey, .string c.startX), (startYKey, .string c.startY), (endXKey, .string c.endX),
    (endYKey, .string c.endY)]

def wholeOrNull : Option Int → Value Int
  | none => .null
  | some value => .number value

/-- What `buildCacheKey` writes for a request whose bucket length is given, perhaps as null. -/
def keyValue (c : Coordinates) (bucketMinutes : Option Nat) (bucket : Bucket) : Value Int :=
  .object [(payloadKey, payloadValue c),
    (extraKeyDataKey, .object [(bucketMinutesKey, wholeOrNull (bucketMinutes.map Int.ofNat))]),
    (bucketStartMsKey, wholeOrNull bucket.startMs), (bucketMinutesKey, .number bucket.minutes)]

/-- `localeCompare` puts the names in the key in this order. -/
structure OrdersNames (localeCompare : JsString → JsString → Int) : Prop
    extends OrdersKeys localeCompare where
  minutes_start : localeCompare (js "bucketMinutes") (js "bucketStartMs") < 0
  start_extra : localeCompare (js "bucketStartMs") (js "extraKeyData") < 0
  extra_payload : localeCompare (js "extraKeyData") (js "payload") < 0
  end_x_y : localeCompare (js "endX") (js "endY") < 0
  end_start : localeCompare (js "endY") (js "startX") < 0
  start_x_y : localeCompare (js "startX") (js "startY") < 0

/-- A list that ascends is what the sort makes of any other order of it. -/
theorem sort_eq_of_ascending (keys : OrdersKeys localeCompare) {V : Type}
    {entries ascending : List (Key × V)} (perm : entries.Perm ascending)
    (ascends : ascending.Pairwise fun a b => localeCompare a.1.text b.1.text < 0) :
    entries.insertionSort (Before localeCompare) = ascending := by
  have distinct : (ascending.map Prod.fst).Nodup := by
    refine List.pairwise_map.mpr (ascends.imp fun {a b} less same => ?_)
    rw [same] at less
    exact keys.irrefl b.1 less
  have in_order : ascending.Pairwise (Before localeCompare) := by
    refine ascends.imp fun {a b} less greater => ?_
    exact keys.irrefl a.1 (keys.trans _ b.1 _ less greater)
  rw [← sorted_eq keys distinct perm.symm, in_order.insertionSort_eq]

theorem ascending_four (keys : OrdersKeys localeCompare) {V : Type} {a b c d : Key × V}
    (first : localeCompare a.1.text b.1.text < 0) (second : localeCompare b.1.text c.1.text < 0)
    (third : localeCompare c.1.text d.1.text < 0) :
    [a, b, c, d].Pairwise fun a b => localeCompare a.1.text b.1.text < 0 := by
  have a_c := keys.trans _ b.1 _ first second
  have b_d := keys.trans _ c.1 _ second third
  have a_d := keys.trans _ b.1 _ first b_d
  simp [first, second, third, a_c, b_d, a_d]

variable (numberText : Int → JsString)

theorem payload_text (names : OrdersNames localeCompare) (c : Coordinates) :
    stableStringify numberText localeCompare (payloadValue c) ++ [closeBrace] =
      openBrace :: js "\"endX\":" ++ coordinatesText c := by
  have halves : ∀ a b c d : Key × Value Int, [a, b, c, d].Perm [c, d, a, b] := by
    intro a b c d
    show ([a, b] ++ [c, d]).Perm ([c, d] ++ [a, b])
    exact List.perm_append_comm
  have sorted := sort_eq_of_ascending names.toOrdersKeys
    (halves (startXKey, .string c.startX) (startYKey, .string c.startY) (endXKey, .string c.endX)
      (endYKey, .string c.endY))
    (ascending_four names.toOrdersKeys names.end_x_y names.end_start names.start_x_y)
  have end_x : js "\"endX\":" = quotation :: (js "endX" ++ [quotation, unit ':']) := by decide
  have end_y : js ",\"endY\":" = unit ',' :: quotation :: (js "endY" ++ [quotation, unit ':']) := by
    decide
  have start_x : js ",\"startX\":" =
      unit ',' :: quotation :: (js "startX" ++ [quotation, unit ':']) := by decide
  have start_y : js ",\"startY\":" =
      unit ',' :: quotation :: (js "startY" ++ [quotation, unit ':']) := by decide
  rw [payloadValue, object_text, sorted]
  simp only [List.map_cons, List.map_nil, separated, memberText, entryText, stableStringify,
    coordinatesText, end_x, end_y, start_x, start_y, endXKey, endYKey, startXKey, startYKey,
    List.append_assoc, List.cons_append, List.nil_append]

/-- The text that the cache key hashes is what `stableStringify` makes of the request. -/
theorem raw_eq_stable_stringify {Num : Type} (names : OrdersNames localeCompare)
    {service : Service Num} {fetch : Fetch Num} {bucketMinutes : Option Nat}
    (given : fetch.bucketMinutes = some bucketMinutes) (bucket : Bucket) :
    fetch.raw service bucket = stableStringify service.texts.ofWhole localeCompare
      (keyValue (fetch.coordinates service) bucketMinutes bucket) := by
  have reversed : ∀ a b c d : Key × Value Int, [d, c, b, a].Perm [a, b, c, d] :=
    fun a b c d => List.reverse_perm [a, b, c, d]
  have sorted := sort_eq_of_ascending names.toOrdersKeys
    (reversed (bucketMinutesKey, .number bucket.minutes)
      (bucketStartMsKey, wholeOrNull bucket.startMs)
      (extraKeyDataKey, .object [(bucketMinutesKey, wholeOrNull (bucketMinutes.map Int.ofNat))])
      (payloadKey, payloadValue (fetch.coordinates service)))
    (ascending_four names.toOrdersKeys names.minutes_start names.start_extra names.extra_payload)
  have minutes : js "\"bucketMinutes\":" =
      quotation :: (js "bucketMinutes" ++ [quotation, unit ':']) := by decide
  have start : js "\"bucketStartMs\":" =
      quotation :: (js "bucketStartMs" ++ [quotation, unit ':']) := by decide
  have extra : js "\"extraKeyData\":" =
      quotation :: (js "extraKeyData" ++ [quotation, unit ':']) := by decide
  have payload : js "\"payload\":" = quotation :: (js "payload" ++ [quotation, unit ':']) := by
    decide
  have start_text : stableStringify service.texts.ofWhole localeCompare
      (wholeOrNull bucket.startMs) =
        (bucket.startMs.map service.texts.ofWhole).getD (js "null") := by
    cases bucket.startMs <;> rfl
  have extra_text : stableStringify service.texts.ofWhole localeCompare
      (wholeOrNull (bucketMinutes.map Int.ofNat)) = fetch.keyExtra service := by
    rw [Fetch.keyExtra, given]
    cases bucketMinutes <;> rfl
  have payload_closed := payload_text service.texts.ofWhole names (fetch.coordinates service)
  simp only [List.cons_append] at payload_closed
  rw [keyValue, object_text, sorted]
  simp only [Fetch.raw, List.map_cons, List.map_nil, separated, memberText, entryText, object_text,
    List.insertionSort_cons, List.insertionSort_nil, List.orderedInsert_nil,
    minutes, start, extra, payload, start_text, extra_text, bucketMinutesKey, bucketStartMsKey,
    extraKeyDataKey, payloadKey, List.append_assoc, List.cons_append, List.nil_append,
    payload_closed]
  rfl

end CacheKey

theorem stable_stringify_canonical {numberText : Num → JsString}
    (numbers : WritesNumbers numberText) {localeCompare : JsString → JsString → Int}
    (keys : OrdersKeys localeCompare) (v w : JsonValue Num) :
    stableStringify numberText localeCompare v.value =
        stableStringify numberText localeCompare w.value ↔ Same v.value w.value := by
  constructor
  · intro same
    exact (value_read_back numbers v.distinct w.value [] [] stopped_nil stopped_nil
      (by rw [same])).1
  · exact fun same => text_of_same keys same v.distinct w.distinct

/-- The order of code units, which `localeCompare` follows on lower case letters. -/
def unitCompare : JsString → JsString → Int
  | [], [] => 0
  | [], _ :: _ => -1
  | _ :: _, [] => 1
  | u :: a, v :: b => if u < v then -1 else if v < u then 1 else unitCompare a b

theorem unit_compare_self (a : JsString) : unitCompare a a = 0 := by
  induction a with
  | nil => rfl
  | cons u a ih => simp [unitCompare, ih]

theorem unit_compare_trans {a b c : JsString} (first : unitCompare a b < 0)
    (second : unitCompare b c < 0) : unitCompare a c < 0 := by
  induction a generalizing b c with
  | nil =>
    cases c with
    | nil => cases b <;> simp [unitCompare] at first second
    | cons w c => simp [unitCompare]
  | cons u a ih =>
    cases b with
    | nil => simp [unitCompare] at first
    | cons v b =>
      cases c with
      | nil => simp [unitCompare] at second
      | cons w c =>
        simp only [unitCompare, UInt16.lt_iff_toNat_lt] at first second ⊢
        split_ifs at first second ⊢ <;> first | omega | exact ih first second

theorem unit_compare_total {a b : JsString} (differs : a ≠ b) :
    unitCompare a b < 0 ∨ unitCompare b a < 0 := by
  induction a generalizing b with
  | nil =>
    cases b with
    | nil => exact absurd rfl differs
    | cons v b => simp [unitCompare]
  | cons u a ih =>
    cases b with
    | nil => simp [unitCompare]
    | cons v b =>
      by_cases same : u = v
      · subst same
        simpa [unitCompare] using ih (fun tails => differs (by rw [tails]))
      · have apart : u.toNat ≠ v.toNat := fun equal => same (UInt16.toNat_inj.mp equal)
        simp only [unitCompare, UInt16.lt_iff_toNat_lt]
        split_ifs <;> omega

theorem unit_compare_orders : OrdersNames unitCompare where
  irrefl a := by simp [unit_compare_self]
  trans _ _ _ := unit_compare_trans
  total _ _ differs := unit_compare_total fun texts => differs (key_ext texts)
  minutes_start := by decide
  start_extra := by decide
  extra_payload := by decide
  end_x_y := by decide
  end_start := by decide
  start_x_y := by decide

theorem whole_numbers_written : WritesNumbers SettingText.numberText where
  injective _ _ := SettingText.number_text_injective
  filled n := by
    unfold SettingText.numberText
    split_ifs
    · simp
    · simp
  units n u mem := by
    rcases SettingText.number_text_plain mem with rfl | range
    · decide
    · have digit : isDigit u = true := by
        simp [isDigit, UInt16.le_iff_toNat_le, range]
      simp [isNumberUnit, digit]

def sampleItems : Value Int := .array [.null, .string (js "\"],[\"")]

theorem sample_items_distinct : Distinct sampleItems := by
  refine Distinct.array fun item mem => ?_
  simp only [List.mem_cons, List.not_mem_nil, or_false] at mem
  rcases mem with rfl | rfl
  · exact Distinct.null
  · exact Distinct.string _

theorem sample_distinct {first second : Key × Value Int} (apart : first.1 ≠ second.1)
    (first_distinct : Distinct first.2) (second_distinct : Distinct second.2) :
    Distinct (.object [first, second]) := by
  refine Distinct.object (by simpa using apart) fun member mem => ?_
  simp only [List.mem_cons, List.not_mem_nil, or_false] at mem
  rcases mem with rfl | rfl
  · exact first_distinct
  · exact second_distinct

def sampleValue : JsonValue Int where
  value := .object [(startXKey, .number (-127)), (endXKey, sampleItems)]
  distinct := sample_distinct (by decide) (Distinct.number _) sample_items_distinct

def reorderedValue : JsonValue Int where
  value := .object [(endXKey, sampleItems), (startXKey, .number (-127))]
  distinct := sample_distinct (by decide) sample_items_distinct (Distinct.number _)

theorem reordered_same : Same sampleValue.value reorderedValue.value :=
  (stable_stringify_canonical whole_numbers_written unit_compare_orders.toOrdersKeys sampleValue
    reorderedValue).mp (by decide)

end StableStringify
