import Linkly.JsText

/-!
Bytes as text: the hexadecimal and base64 encodings, with the two base64 alphabets, and Node's
decoders for them. The base64 decoder takes the digits of both alphabets, passes over every other
unit and stops at the first `=`; it looks at the low byte of a unit only.
-/
namespace ByteText
open JsText

section Hex

def hexValue (u : UInt16) : Option Nat :=
  if 48 ≤ u.toNat ∧ u.toNat ≤ 57 then some (u.toNat - 48)
  else if 65 ≤ u.toNat ∧ u.toNat ≤ 70 then some (u.toNat - 55)
  else if 97 ≤ u.toNat ∧ u.toNat ≤ 102 then some (u.toNat - 87)
  else none

/-- The decoder stops at the first pair that is not two digits. -/
def ofHex : JsString → List UInt8
  | u :: v :: rest =>
    match hexValue u, hexValue v with
    | some high, some low => UInt8.ofNat (high * 16 + low) :: ofHex rest
    | _, _ => []
  | _ => []

def nibbles (bytes : List UInt8) : List Nat :=
  bytes.flatMap fun b => [b.toNat / 16, b.toNat % 16]

/-- Digits in either case. -/
def HexOf (text : JsString) (bytes : List UInt8) : Prop :=
  text.map hexValue = (nibbles bytes).map some

theorem of_hex_digits {text : JsString} {bytes : List UInt8} (digits : HexOf text bytes) :
    ofHex text = bytes := by
  induction bytes generalizing text with
  | nil =>
    have : text = [] := by simpa [HexOf, nibbles] using digits
    simp [this, ofHex]
  | cons b bytes ih =>
    match text, digits with
    | u :: v :: rest, digits =>
      simp only [HexOf, nibbles, List.flatMap_cons, List.map_cons, List.cons_append,
        List.nil_append, List.cons.injEq] at digits
      obtain ⟨high, low, rest_digits⟩ := digits
      have whole : b.toNat / 16 * 16 + b.toNat % 16 = b.toNat := by omega
      simp [ofHex, high, low, whole, ih rest_digits]
    | [_], digits => simp [HexOf, nibbles] at digits
    | [], digits => simp [HexOf, nibbles] at digits

theorem hex_length {text : JsString} {bytes : List UInt8} (digits : HexOf text bytes) :
    text.length = 2 * bytes.length := by
  have lengths := congrArg List.length digits
  have pairs : (nibbles bytes).length = 2 * bytes.length := by
    induction bytes with
    | nil => rfl
    | cons b bytes ih => simp [nibbles, List.length_flatMap]; omega
  simpa [pairs] using lengths

end Hex

section Base64

def base64Digit (n : Nat) : UInt16 :=
  if n < 26 then UInt16.ofNat (65 + n)
  else if n < 52 then UInt16.ofNat (71 + n)
  else if n < 62 then UInt16.ofNat (n - 4)
  else if n = 62 then unit '+'
  else unit '/'

def urlDigit (n : Nat) : UInt16 :=
  if n = 62 then unit '-' else if n = 63 then unit '_' else base64Digit n

def lowByte (u : UInt16) : Nat := u.toNat % 256

def sextet (u : UInt16) : Option Nat :=
  if 65 ≤ lowByte u ∧ lowByte u ≤ 90 then some (lowByte u - 65)
  else if 97 ≤ lowByte u ∧ lowByte u ≤ 122 then some (lowByte u - 71)
  else if 48 ≤ lowByte u ∧ lowByte u ≤ 57 then some (lowByte u + 4)
  else if lowByte u = 43 ∨ lowByte u = 45 then some 62
  else if lowByte u = 47 ∨ lowByte u = 95 then some 63
  else none

def sextets : List UInt8 → List Nat
  | [] => []
  | [a] => [a.toNat / 4, a.toNat % 4 * 16]
  | [a, b] => [a.toNat / 4, a.toNat % 4 * 16 + b.toNat / 16, b.toNat % 16 * 4]
  | a :: b :: c :: rest =>
    a.toNat / 4 :: (a.toNat % 4 * 16 + b.toNat / 16) :: (b.toNat % 16 * 4 + c.toNat / 64) ::
      c.toNat % 64 :: sextets rest

def ofSextets : List Nat → List UInt8
  | p :: q :: r :: s :: rest =>
    UInt8.ofNat (p * 4 + q / 16) :: UInt8.ofNat (q % 16 * 16 + r / 4) ::
      UInt8.ofNat (r % 4 * 64 + s) :: ofSextets rest
  | [p, q, r] => [UInt8.ofNat (p * 4 + q / 16), UInt8.ofNat (q % 16 * 16 + r / 4)]
  | [p, q] => [UInt8.ofNat (p * 4 + q / 16)]
  | _ => []

def padding (bytes : List UInt8) : JsString := List.replicate ((3 - bytes.length % 3) % 3) (unit '=')

def toBase64 (bytes : List UInt8) : JsString := (sextets bytes).map base64Digit ++ padding bytes

def ofBase64 (text : JsString) : List UInt8 :=
  ofSextets ((text.takeWhile (lowByte · ≠ 61)).filterMap sextet)

/-- In either alphabet, with or without the padding. -/
def Base64Of (text : JsString) (bytes : List UInt8) : Prop :=
  ∃ digit ∈ [base64Digit, urlDigit], ∃ tail ∈ [[], padding bytes],
    text = (sextets bytes).map digit ++ tail

theorem of_sextets (bytes : List UInt8) : ofSextets (sextets bytes) = bytes := by
  induction bytes using sextets.induct with
  | case1 => rfl
  | case2 a =>
    have first : a.toNat / 4 * 4 + a.toNat % 4 * 16 / 16 = a.toNat := by omega
    simp only [sextets, ofSextets, first, UInt8.ofNat_toNat]
  | case3 a b =>
    have small := b.toNat_lt
    have first : a.toNat / 4 * 4 + (a.toNat % 4 * 16 + b.toNat / 16) / 16 = a.toNat := by omega
    have second : (a.toNat % 4 * 16 + b.toNat / 16) % 16 * 16 + b.toNat % 16 * 4 / 4 =
        b.toNat := by omega
    simp only [sextets, ofSextets, first, second, UInt8.ofNat_toNat]
  | case4 a b c rest ih =>
    have small_b := b.toNat_lt
    have small_c := c.toNat_lt
    have first : a.toNat / 4 * 4 + (a.toNat % 4 * 16 + b.toNat / 16) / 16 = a.toNat := by omega
    have second : (a.toNat % 4 * 16 + b.toNat / 16) % 16 * 16 +
        (b.toNat % 16 * 4 + c.toNat / 64) / 4 = b.toNat := by omega
    have third : (b.toNat % 16 * 4 + c.toNat / 64) % 4 * 64 + c.toNat % 64 = c.toNat := by omega
    simp only [sextets, ofSextets, first, second, third, UInt8.ofNat_toNat, ih]

theorem sextets_small {bytes : List UInt8} {n : Nat} (mem : n ∈ sextets bytes) : n < 64 := by
  induction bytes using sextets.induct with
  | case1 => simp [sextets] at mem
  | case2 a =>
    have small := a.toNat_lt
    simp only [sextets, List.mem_cons, List.not_mem_nil, or_false] at mem
    omega
  | case3 a b =>
    have small_a := a.toNat_lt
    have small_b := b.toNat_lt
    simp only [sextets, List.mem_cons, List.not_mem_nil, or_false] at mem
    omega
  | case4 a b c rest ih =>
    have small_a := a.toNat_lt
    have small_b := b.toNat_lt
    have small_c := c.toNat_lt
    simp only [sextets, List.mem_cons] at mem
    rcases mem with first | second | third | fourth | later
    · omega
    · omega
    · omega
    · omega
    · exact ih later

theorem length_sextets (bytes : List UInt8) :
    (sextets bytes).length = (4 * bytes.length + 2) / 3 := by
  induction bytes using sextets.induct with
  | case1 => rfl
  | case2 a => simp [sextets]
  | case3 a b => simp [sextets]
  | case4 a b c rest ih =>
    simp only [sextets, List.length_cons, ih]
    omega

theorem sextet_base64_digit : ∀ n < 64, sextet (base64Digit n) = some n := by decide

theorem sextet_url_digit : ∀ n < 64, sextet (urlDigit n) = some n := by decide

section Digits
variable {digit : Nat → UInt16} (reads : ∀ n < 64, sextet (digit n) = some n)
include reads

theorem digits_no_padding (bytes : List UInt8) :
    ∀ u ∈ (sextets bytes).map digit, lowByte u ≠ 61 := by
  intro u mem same
  obtain ⟨n, in_sextets, rfl⟩ := List.mem_map.mp mem
  have value := reads n (sextets_small in_sextets)
  simp [sextet, same] at value

theorem filter_map_digits (bytes : List UInt8) :
    ((sextets bytes).map digit).filterMap sextet = sextets bytes := by
  rw [List.filterMap_map]
  have reads_all : ∀ n ∈ sextets bytes, (sextet ∘ digit) n = some n :=
    fun n mem => reads n (sextets_small mem)
  rw [List.filterMap_congr reads_all, List.filterMap_some]

theorem of_base64_digits (bytes : List UInt8) {tail : JsString}
    (closed : tail = [] ∨ tail = padding bytes) :
    ofBase64 ((sextets bytes).map digit ++ tail) = bytes := by
  have kept : ((sextets bytes).map digit ++ tail).takeWhile (lowByte · ≠ 61) =
      (sextets bytes).map digit := by
    have none_in_front := digits_no_padding reads bytes
    rw [List.takeWhile_append_of_pos (by simpa using none_in_front)]
    have stops : tail.takeWhile (lowByte · ≠ 61) = [] := by
      rcases closed with rfl | rfl
      · rfl
      · have mark : lowByte (unit '=') = 61 := by decide
        cases count : (3 - bytes.length % 3) % 3 <;> simp [padding, count, mark, List.replicate_succ]
    rw [stops, List.append_nil]
  rw [ofBase64, kept, filter_map_digits reads, of_sextets]

end Digits

theorem of_base64_of {text : JsString} {bytes : List UInt8} (code : Base64Of text bytes) :
    ofBase64 text = bytes := by
  obtain ⟨digit, alphabet, tail, closed, rfl⟩ := code
  have ends : tail = [] ∨ tail = padding bytes := by simpa using closed
  rcases List.mem_pair.mp alphabet with rfl | rfl
  · exact of_base64_digits sextet_base64_digit bytes ends
  · exact of_base64_digits sextet_url_digit bytes ends

theorem to_base64_of (bytes : List UInt8) : Base64Of (toBase64 bytes) bytes :=
  ⟨base64Digit, by simp, padding bytes, by simp, rfl⟩

/-- Reading back what was written. -/
theorem of_to_base64 (bytes : List UInt8) : ofBase64 (toBase64 bytes) = bytes :=
  of_base64_of (to_base64_of bytes)

end Base64

example : toBase64 [0xFB, 0xFF] = js "+/8=" ∧ ofBase64 (js "-_8") = [0xFB, 0xFF] := by decide

end ByteText
