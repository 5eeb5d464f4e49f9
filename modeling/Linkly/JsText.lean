import Mathlib.Data.List.Basic

/-!
Strings as JavaScript has them: sequences of UTF-16 code units, any sequence being allowed.
-/
namespace JsText

abbrev JsString := List UInt16

instance : LawfulBEq JsString := inferInstance

def unit (c : Char) : UInt16 := UInt16.ofNat c.toNat

/-- A literal whose characters all lie in the basic plane. -/
def js (text : String) : JsString := text.toList.map unit

/-- The code units that `trim` removes: the white space and the line terminators. -/
def isBlank (u : UInt16) : Bool :=
  (9 ≤ u && u ≤ 13) || u = 0x20 || u = 0xA0 || u = 0x1680 || (0x2000 ≤ u && u ≤ 0x200A) ||
    u = 0x2028 || u = 0x2029 || u = 0x202F || u = 0x205F || u = 0x3000 || u = 0xFEFF

def isDigit (u : UInt16) : Bool := 48 ≤ u && u ≤ 57

def trimStart (text : JsString) : JsString := text.dropWhile isBlank

def trim (text : JsString) : JsString := (trimStart (trimStart text).reverse).reverse

example : trim (js " couple-1\n") = js "couple-1" := by decide

end JsText
