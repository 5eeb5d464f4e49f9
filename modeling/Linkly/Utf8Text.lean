import Linkly.JsText

/-!
Strings of UTF-16 code units as UTF-8 bytes, by way of code points. The encoder writes U+FFFD for a
surrogate that stands alone; the decoder reads U+FFFD for each longest start of a character that
nothing completes.
-/
namespace Utf8Text
open JsText

def isHigh (u : UInt16) : Bool := 0xD800 ≤ u.toNat ∧ u.toNat ≤ 0xDBFF

def isLow (u : UInt16) : Bool := 0xDC00 ≤ u.toNat ∧ u.toNat ≤ 0xDFFF

def isSurrogate (u : UInt16) : Bool := isHigh u || isLow u

def pairPoint (u v : UInt16) : Nat := 0x10000 + (u.toNat - 0xD800) * 0x400 + (v.toNat - 0xDC00)

def replacement : Nat := 0xFFFD

def loneSafe (u : UInt16) : Nat := if isSurrogate u then replacement else u.toNat

def points : JsString → List Nat
  | [] => []
  | [u] => [loneSafe u]
  | u :: v :: rest =>
    if isHigh u && isLow v then pairPoint u v :: points rest else loneSafe u :: points (v :: rest)

def pointUnits (n : Nat) : JsString :=
  if n < 0x10000 then [UInt16.ofNat n]
  else [UInt16.ofNat (0xD800 + (n - 0x10000) / 0x400), UInt16.ofNat (0xDC00 + (n - 0x10000) % 0x400)]

def pointBytes (n : Nat) : List UInt8 :=
  if n < 0x80 then [UInt8.ofNat n]
  else if n < 0x800 then [UInt8.ofNat (0xC0 + n / 0x40), UInt8.ofNat (0x80 + n % 0x40)]
  else if n < 0x10000 then
    [UInt8.ofNat (0xE0 + n / 0x1000), UInt8.ofNat (0x80 + n / 0x40 % 0x40),
      UInt8.ofNat (0x80 + n % 0x40)]
  else
    [UInt8.ofNat (0xF0 + n / 0x40000), UInt8.ofNat (0x80 + n / 0x1000 % 0x40),
      UInt8.ofNat (0x80 + n / 0x40 % 0x40), UInt8.ofNat (0x80 + n % 0x40)]

def toUtf8 (text : JsString) : List UInt8 := (points text).flatMap pointBytes

/-- A character whose next byte must lie between the bounds, with `more` bytes after that one. -/
structure Pending where
  more : Nat
  lower : Nat
  upper : Nat
  value : Nat

inductive Lead where
  | whole (point : Nat)
  | begun (pending : Pending)

def lead (b : Nat) : Lead :=
  if b < 0x80 then .whole b
  else if b < 0xC2 then .whole replacement
  else if b < 0xE0 then .begun ⟨0, 0x80, 0xBF, b - 0xC0⟩
  else if b < 0xF0 then
    .begun ⟨1, if b = 0xE0 then 0xA0 else 0x80, if b = 0xED then 0x9F else 0xBF, b - 0xE0⟩
  else if b < 0xF5 then
    .begun ⟨2, if b = 0xF0 then 0x90 else 0x80, if b = 0xF4 then 0x8F else 0xBF, b - 0xF0⟩
  else .whole replacement

def readPoints : Option Pending → List UInt8 → List Nat
  | none, [] => []
  | some _, [] => [replacement]
  | none, b :: bytes =>
    match lead b.toNat with
    | .whole n => n :: readPoints none bytes
    | .begun pending => readPoints (some pending) bytes
  | some pending, b :: bytes =>
    if pending.lower ≤ b.toNat ∧ b.toNat ≤ pending.upper then
      let value := pending.value * 0x40 + (b.toNat - 0x80)
      match pending.more with
      | 0 => value :: readPoints none bytes
      | more + 1 => readPoints (some ⟨more, 0x80, 0xBF, value⟩) bytes
    else
      -- the byte that does not fit starts the next character
      replacement ::
        match lead b.toNat with
        | .whole n => n :: readPoints none bytes
        | .begun next => readPoints (some next) bytes

def ofUtf8 (bytes : List UInt8) : JsString := (readPoints none bytes).flatMap pointUnits

/-- No surrogate stands alone. -/
def wellFormed : JsString → Bool
  | [] => true
  | [u] => !isSurrogate u
  | u :: v :: rest =>
    if isHigh u && isLow v then wellFormed rest else !isSurrogate u && wellFormed (v :: rest)

def IsScalar (n : Nat) : Prop := n < 0xD800 ∨ (0xE000 ≤ n ∧ n < 0x110000)

theorem byte_value {n : Nat} (small : n < 0x100) : (UInt8.ofNat n).toNat = n := by
  rw [UInt8.toNat_ofNat']
  omega

theorem read_continuation {pending : Pending} {n more : Nat} {bytes : List UInt8} (small : n < 0x40)
    (count : pending.more = more + 1)
    (fits : pending.lower ≤ 0x80 + n ∧ 0x80 + n ≤ pending.upper) :
    readPoints (some pending) (UInt8.ofNat (0x80 + n) :: bytes) =
      readPoints (some ⟨more, 0x80, 0xBF, pending.value * 0x40 + n⟩) bytes := by
  have value := byte_value (n := 0x80 + n) (by omega)
  simp only [readPoints, value, fits, count, and_self, ↓reduceIte, Nat.add_sub_cancel_left]

theorem read_last {pending : Pending} {n : Nat} {bytes : List UInt8} (small : n < 0x40)
    (count : pending.more = 0) (fits : pending.lower ≤ 0x80 + n ∧ 0x80 + n ≤ pending.upper) :
    readPoints (some pending) (UInt8.ofNat (0x80 + n) :: bytes) =
      (pending.value * 0x40 + n) :: readPoints none bytes := by
  have value := byte_value (n := 0x80 + n) (by omega)
  simp only [readPoints, value, fits, count, and_self, ↓reduceIte, Nat.add_sub_cancel_left]

theorem read_lead {b : Nat} {pending : Pending} {bytes : List UInt8} (small : b < 0x100)
    (begun : lead b = .begun pending) :
    readPoints none (UInt8.ofNat b :: bytes) = readPoints (some pending) bytes := by
  simp [readPoints, byte_value small, begun]

theorem read_point {n : Nat} (scalar : IsScalar n) (bytes : List UInt8) :
    readPoints none (pointBytes n ++ bytes) = n :: readPoints none bytes := by
  unfold IsScalar at scalar
  unfold pointBytes
  split_ifs with one two three
  · simp [readPoints, byte_value (show n < 0x100 by omega), lead, one]
  · have begun : lead (0xC0 + n / 0x40) = .begun ⟨0, 0x80, 0xBF, n / 0x40⟩ := by
      have : 0xC2 ≤ 0xC0 + n / 0x40 ∧ 0xC0 + n / 0x40 < 0xE0 := by omega
      simp only [lead]
      split_ifs <;> first | omega | simp
    have value : n / 0x40 * 0x40 + n % 0x40 = n := by omega
    rw [List.cons_append, read_lead (by omega) begun, List.cons_append,
      read_last (by omega) rfl (by simp; omega), value, List.nil_append]
  · have begun : lead (0xE0 + n / 0x1000) =
        .begun ⟨1, if n / 0x1000 = 0 then 0xA0 else 0x80, if n / 0x1000 = 13 then 0x9F else 0xBF,
          n / 0x1000⟩ := by
      have : n / 0x1000 < 0x10 := by omega
      simp only [lead]
      split_ifs <;> first | omega | simp
    have value : (n / 0x1000 * 0x40 + n / 0x40 % 0x40) * 0x40 + n % 0x40 = n := by omega
    have fits : (if n / 0x1000 = 0 then 0xA0 else 0x80) ≤ 0x80 + n / 0x40 % 0x40 ∧
        0x80 + n / 0x40 % 0x40 ≤ if n / 0x1000 = 13 then 0x9F else 0xBF := by
      split_ifs <;> omega
    rw [List.cons_append, read_lead (by omega) begun, List.cons_append,
      read_continuation (by omega) rfl fits, List.cons_append,
      read_last (by omega) rfl (by simp; omega), value, List.nil_append]
  · have begun : lead (0xF0 + n / 0x40000) =
        .begun ⟨2, if n / 0x40000 = 0 then 0x90 else 0x80, if n / 0x40000 = 4 then 0x8F else 0xBF,
          n / 0x40000⟩ := by
      have : n / 0x40000 < 5 := by omega
      simp only [lead]
      split_ifs <;> first | omega | simp
    have value : ((n / 0x40000 * 0x40 + n / 0x1000 % 0x40) * 0x40 + n / 0x40 % 0x40) * 0x40 +
        n % 0x40 = n := by omega
    have fits : (if n / 0x40000 = 0 then 0x90 else 0x80) ≤ 0x80 + n / 0x1000 % 0x40 ∧
        0x80 + n / 0x1000 % 0x40 ≤ if n / 0x40000 = 4 then 0x8F else 0xBF := by
      split_ifs <;> omega
    rw [List.cons_append, read_lead (by omega) begun, List.cons_append,
      read_continuation (by omega) rfl fits, List.cons_append,
      read_continuation (by omega) rfl (by simp; omega), List.cons_append,
      read_last (by omega) rfl (by simp; omega), value, List.nil_append]

theorem read_points {scalars : List Nat} (all : ∀ n ∈ scalars, IsScalar n) :
    readPoints none (scalars.flatMap pointBytes) = scalars := by
  induction scalars with
  | nil => rfl
  | cons n scalars ih =>
    rw [List.flatMap_cons, read_point (all n List.mem_cons_self),
      ih fun k mem => all k (List.mem_cons_of_mem n mem)]

theorem pair_bounds {u v : UInt16} (pair : (isHigh u && isLow v) = true) :
    (0xD800 ≤ u.toNat ∧ u.toNat ≤ 0xDBFF) ∧ 0xDC00 ≤ v.toNat ∧ v.toNat ≤ 0xDFFF := by
  simpa [isHigh, isLow] using pair

theorem lone_safe_scalar (u : UInt16) : IsScalar (loneSafe u) := by
  have small := u.toNat_lt
  unfold loneSafe IsScalar replacement
  split_ifs with surrogate
  · omega
  · simp [isSurrogate, isHigh, isLow] at surrogate
    omega

theorem points_scalar (text : JsString) : ∀ n ∈ points text, IsScalar n := by
  induction text using points.induct with
  | case1 => simp [points]
  | case2 u => simp [points, lone_safe_scalar]
  | case3 u v rest pair ih =>
    have bounds := pair_bounds pair
    have scalar : IsScalar (pairPoint u v) := by
      unfold IsScalar pairPoint
      omega
    simpa [points, pair, scalar] using ih
  | case4 u v rest apart ih =>
    simpa [points, apart, lone_safe_scalar] using ih

theorem lone_units {u : UInt16} (alone : isSurrogate u = false) : pointUnits (loneSafe u) = [u] := by
  have small := u.toNat_lt
  simp [loneSafe, alone, pointUnits, show u.toNat < 0x10000 by omega]

theorem pair_units {u v : UInt16} (pair : (isHigh u && isLow v) = true) :
    pointUnits (pairPoint u v) = [u, v] := by
  have bounds := pair_bounds pair
  have beyond : ¬ pairPoint u v < 0x10000 := by
    unfold pairPoint
    omega
  have high : 0xD800 + (pairPoint u v - 0x10000) / 0x400 = u.toNat := by
    unfold pairPoint
    omega
  have low : 0xDC00 + (pairPoint u v - 0x10000) % 0x400 = v.toNat := by
    unfold pairPoint
    omega
  simp only [pointUnits, beyond, if_false, high, low, UInt16.ofNat_toNat]

theorem units_points {text : JsString} (formed : wellFormed text = true) :
    (points text).flatMap pointUnits = text := by
  induction text using points.induct with
  | case1 => rfl
  | case2 u =>
    have alone : isSurrogate u = false := by simpa [wellFormed] using formed
    simp [points, lone_units alone]
  | case3 u v rest pair ih =>
    have rest_formed : wellFormed rest = true := by simpa [wellFormed, pair] using formed
    simp [points, pair, pair_units pair, ih rest_formed]
  | case4 u v rest apart ih =>
    have parts : isSurrogate u = false ∧ wellFormed (v :: rest) = true := by
      simpa [wellFormed, apart] using formed
    simp [points, apart, lone_units parts.1, ih parts.2]

/-- Decoding gives back every text without a lone surrogate. -/
theorem of_to_utf8 {text : JsString} (formed : wellFormed text = true) :
    ofUtf8 (toUtf8 text) = text := by
  rw [ofUtf8, toUtf8, read_points (points_scalar text), units_points formed]

example : toUtf8 [0xD83D, 0xDE00] = [0xF0, 0x9F, 0x98, 0x80] ∧ toUtf8 [0xD83D] = [0xEF, 0xBF, 0xBD] ∧
    ofUtf8 [0xE2, 0x82, 0x41] = [0xFFFD, 0x41] := by decide

end Utf8Text
