import Linkly.JsText
import Mathlib.Algebra.Group.Nat.Defs
import Mathlib.Data.List.DropRight
import Mathlib.Data.Nat.Log

/-!
What the reading of a setting uses: trimming around a separator, lists of trimmed parts, and
`Number.parseInt` in base ten.
-/
namespace SettingText
open JsText

section Trim

def trimEnd (text : JsString) : JsString := text.rdropWhile isBlank

theorem trim_eq (text : JsString) : trim text = trimEnd (trimStart text) := rfl

theorem trim_start_append {sep : UInt16} (dark : isBlank sep = false) (front back : JsString) :
    trimStart (front ++ sep :: back) = trimStart front ++ sep :: back := by
  unfold trimStart
  rw [List.dropWhile_append]
  split_ifs with all_blank
  · rw [List.isEmpty_iff] at all_blank
    simp [all_blank, dark]
  · rfl

theorem trim_end_append {sep : UInt16} (dark : isBlank sep = false) (front back : JsString) :
    trimEnd (front ++ sep :: back) = front ++ sep :: trimEnd back := by
  have turned := trim_start_append dark back.reverse front.reverse
  simp only [trimStart] at turned
  simp [trimEnd, List.rdropWhile, turned]

/-- A separator that is not blank keeps what is trimmed on one side from the other. -/
theorem trim_append {sep : UInt16} (dark : isBlank sep = false) (front back : JsString) :
    trim (front ++ sep :: back) = trimStart front ++ sep :: trimEnd back := by
  rw [trim_eq, trim_start_append dark, trim_end_append dark]

theorem trim_start_idempotent (text : JsString) : trimStart (trimStart text) = trimStart text :=
  List.dropWhile_idempotent isBlank text

theorem trim_trim_start (text : JsString) : trim (trimStart text) = trim text := by
  rw [trim_eq, trim_start_idempotent, trim_eq]

theorem trim_blank_front {blanks : JsString} (blank : ∀ u ∈ blanks, isBlank u = true)
    (text : JsString) : trim (blanks ++ text) = trim text := by
  have start : trimStart (blanks ++ text) = trimStart text := List.dropWhile_append_of_pos blank
  rw [trim_eq, start, trim_eq]

theorem trim_end_blank {blanks : JsString} (blank : ∀ u ∈ blanks, isBlank u = true)
    (text : JsString) : trimEnd (text ++ blanks) = trimEnd text := by
  have turned : ∀ u ∈ blanks.reverse, isBlank u = true := by simpa using blank
  simp [trimEnd, List.rdropWhile, List.dropWhile_append_of_pos turned]

theorem trim_blank_back {blanks : JsString} (blank : ∀ u ∈ blanks, isBlank u = true)
    (text : JsString) : trim (text ++ blanks) = trim text := by
  rw [trim_eq, trim_eq, trimStart, List.dropWhile_append]
  split_ifs with all_blank
  · rw [List.isEmpty_iff] at all_blank
    have nothing : blanks.dropWhile isBlank = [] := by simpa using blank
    rw [nothing, trimStart, all_blank]
  · exact trim_end_blank blank _

theorem trim_trim_end (text : JsString) : trim (trimEnd text) = trim text := by
  have blank : ∀ u ∈ text.rtakeWhile isBlank, isBlank u = true :=
    fun u mem => List.mem_rtakeWhile_imp mem
  have whole : trimEnd text ++ text.rtakeWhile isBlank = text :=
    List.rdropWhile_append_rtakeWhile
  calc trim (trimEnd text) = trim (trimEnd text ++ text.rtakeWhile isBlank) :=
        (trim_blank_back blank _).symm
    _ = trim text := by rw [whole]

theorem trim_trim (text : JsString) : trim (trim text) = trim text := by
  rw [trim_eq text, trim_trim_end, trim_trim_start, trim_eq]

theorem trim_dark {text : JsString} (dark : ∀ u ∈ text, isBlank u = false) : trim text = text := by
  have start : trimStart text = text := by
    cases text with
    | nil => rfl
    | cons u text => simp [trimStart, dark u List.mem_cons_self]
  have last : trimEnd text = text := by
    rw [trimEnd, List.rdropWhile_eq_self_iff]
    intro nonempty
    simp [dark _ (List.getLast_mem nonempty)]
  rw [trim_eq, start, last]

end Trim

section Parts

def parts (sep : UInt16) (text : JsString) : List JsString := (text.splitOn sep).map trim

theorem parts_append (sep : UInt16) (front back : JsString) :
    parts sep (front ++ sep :: back) = parts sep front ++ parts sep back := by
  rw [parts, List.splitOn_append_cons_self, List.map_append, parts, parts]

theorem parts_single {sep : UInt16} {text : JsString} (absent : sep ∉ text) :
    parts sep text = [trim text] := by
  rw [parts, List.splitOn_eq_singleton absent, List.map_singleton]

theorem trim_start_subset (text : JsString) : trimStart text ⊆ text :=
  (List.dropWhile_sublist _).subset

theorem trim_end_subset (text : JsString) : trimEnd text ⊆ text :=
  (List.rdropWhile_prefix isBlank text).subset

theorem parts_trim_start {sep : UInt16} (dark : isBlank sep = false) (text : JsString) :
    parts sep (trimStart text) = parts sep text := by
  by_cases present : sep ∈ text
  · obtain ⟨front, back, rfl, absent⟩ := List.eq_append_cons_of_mem present
    rw [trim_start_append dark, parts_append, parts_append, parts_single absent,
      parts_single fun mem => absent (trim_start_subset front mem), trim_trim_start]
  · rw [parts_single present, parts_single fun mem => present (trim_start_subset text mem),
      trim_trim_start]

theorem parts_trim_end {sep : UInt16} (dark : isBlank sep = false) (text : JsString) :
    parts sep (trimEnd text) = parts sep text := by
  by_cases present : sep ∈ text
  · obtain ⟨back, front, turned, absent⟩ :=
      List.eq_append_cons_of_mem (List.mem_reverse.mpr present)
    have whole : text = front.reverse ++ sep :: back.reverse := by
      rw [← List.reverse_reverse text, turned]
      simp
    have absent_back : sep ∉ back.reverse := by simpa using absent
    rw [whole, trim_end_append dark, parts_append, parts_append, parts_single absent_back,
      parts_single fun mem => absent_back (trim_end_subset _ mem), trim_trim_end]
  · rw [parts_single present, parts_single fun mem => present (trim_end_subset text mem),
      trim_trim_end]

/-- Trimming the whole list first changes no trimmed part. -/
theorem parts_trim {sep : UInt16} (dark : isBlank sep = false) (text : JsString) :
    parts sep (trim text) = parts sep text := by
  rw [trim_eq, parts_trim_end dark, parts_trim_start dark]

end Parts

section Numbers

/-- The double that is nearest to a whole number, a tie going to the even one; a number beyond all
    doubles becomes the power 1024 of two, which stands for infinity. -/
def nearestDouble (n : Nat) : Nat :=
  if n < 2 ^ 53 then n
  else
    let step := 2 ^ (n.log2 - 52)
    let up := n % step * 2 > step ∨ (n % step * 2 = step ∧ n / step % 2 = 1)
    min ((if up then n / step + 1 else n / step) * step) (2 ^ 1024)

def decimalValue (digits : JsString) : Nat :=
  digits.foldl (fun value u => value * 10 + (u.toNat - 48)) 0

/-- `NaN` is `none`. What follows the digits is ignored. -/
def parseInt (text : JsString) : Option Int :=
  let body := trimStart text
  let negative := body.head? = some (unit '-')
  let unsigned := if negative ∨ body.head? = some (unit '+') then body.tail else body
  let digits := unsigned.takeWhile isDigit
  if digits = [] then none
  else
    let magnitude : Int := nearestDouble (decimalValue digits)
    some (if negative then -magnitude else magnitude)

theorem parse_int_trim_start (text : JsString) : parseInt (trimStart text) = parseInt text := by
  rw [parseInt, trim_start_idempotent, parseInt]

theorem parse_int_nonempty {text : JsString} {n : Int} (number : parseInt text = some n) :
    text ≠ [] := by
  rintro rfl
  simp [parseInt, trimStart] at number

example : parseInt (js "\t-12 ") = some (-12) ∧ parseInt (js "+7x") = some 7 ∧
    parseInt (js "v1") = none ∧ parseInt (js "9007199254740995") = some 9007199254740996 := by
  decide +kernel

/-- The text of a whole number that a double holds exactly and writes without exponent. -/
def numberText (n : Int) : JsString :=
  let digits := (Nat.toDigits 10 n.natAbs).map unit
  if n < 0 then unit '-' :: digits else digits

theorem unit_digit {c : Char} (digit : c.isDigit = true) :
    (unit c).toNat = c.toNat ∧ 48 ≤ c.toNat ∧ c.toNat ≤ 57 := by
  have range : 48 ≤ c.toNat ∧ c.toNat ≤ 57 := by
    simpa [Char.isDigit, UInt32.le_iff_toNat_le] using digit
  refine ⟨?_, range⟩
  rw [unit, UInt16.toNat_ofNat']
  omega

theorem decimal_value_digits (n : Nat) : decimalValue ((Nat.toDigits 10 n).map unit) = n := by
  have fold : ∀ (digits : List Char) (init : Nat), (∀ c ∈ digits, c.isDigit = true) →
      (digits.map unit).foldl (fun value u => value * 10 + (u.toNat - 48)) init =
        Nat.ofDigitChars 10 digits init := by
    intro digits
    induction digits with
    | nil => intro init _; simp
    | cons c digits ih =>
      intro init all
      have value := unit_digit (all c List.mem_cons_self)
      rw [List.map_cons, List.foldl_cons, Nat.ofDigitChars_cons,
        ih _ fun d mem => all d (List.mem_cons_of_mem c mem), value.1, Nat.mul_comm]
      rfl
  have digits : ∀ c ∈ Nat.toDigits 10 n, c.isDigit = true :=
    fun c mem => Nat.isDigit_of_mem_toDigits (by decide) (by decide) mem
  rw [decimalValue, fold _ 0 digits, Nat.ofDigitChars_ten_toDigits]

theorem decimal_value_lt {text : JsString} (digits : ∀ u ∈ text, isDigit u = true) :
    decimalValue text < 10 ^ text.length := by
  induction text using List.reverseRecOn with
  | nil => decide
  | append_singleton front last ih =>
    have lead := ih fun u mem => digits u (List.mem_append_left _ mem)
    have value : last.toNat ≤ 57 := by
      have own := digits last (List.mem_append_right _ List.mem_cons_self)
      simp only [isDigit, Bool.and_eq_true, decide_eq_true_eq, UInt16.le_iff_toNat_le] at own
      exact own.2
    unfold decimalValue at lead ⊢
    rw [List.foldl_append, List.foldl_cons, List.foldl_nil, List.length_append,
      List.length_singleton, Nat.pow_succ]
    omega

theorem number_text_plain {n : Int} {u : UInt16} (mem : u ∈ numberText n) :
    u = unit '-' ∨ 48 ≤ u.toNat ∧ u.toNat ≤ 57 := by
  have digit : ∀ v ∈ (Nat.toDigits 10 n.natAbs).map unit, 48 ≤ v.toNat ∧ v.toNat ≤ 57 := by
    intro v in_digits
    obtain ⟨c, in_chars, rfl⟩ := List.mem_map.mp in_digits
    have value := unit_digit (Nat.isDigit_of_mem_toDigits (by decide) (by decide) in_chars)
    omega
  unfold numberText at mem
  split_ifs at mem
  · rcases List.mem_cons.mp mem with sign | later
    · exact Or.inl sign
    · exact Or.inr (digit u later)
  · exact Or.inr (digit u mem)

theorem number_text_injective {a b : Int} (same : numberText a = numberText b) : a = b := by
  have not_sign : ∀ (n : Nat) (rest : JsString),
      (Nat.toDigits 10 n).map unit ≠ unit '-' :: rest := by
    intro n rest digits
    have first : unit '-' ∈ (Nat.toDigits 10 n).map unit := digits ▸ List.mem_cons_self
    obtain ⟨c, in_chars, sign⟩ := List.mem_map.mp first
    have value := unit_digit (Nat.isDigit_of_mem_toDigits (by decide) (by decide) in_chars)
    have minus : (unit '-').toNat = 45 := rfl
    rw [sign, minus] at value
    omega
  have magnitude : ∀ {n k : Nat},
      (Nat.toDigits 10 n).map unit = (Nat.toDigits 10 k).map unit → n = k := by
    intro n k digits
    rw [← decimal_value_digits n, digits, decimal_value_digits]
  unfold numberText at same
  split_ifs at same with negative_a negative_b negative_b
  · have abs := magnitude (List.cons.inj same).2
    omega
  · exact absurd same.symm (not_sign _ _)
  · exact absurd same (not_sign _ _)
  · have abs := magnitude same
    omega

end Numbers

end SettingText
