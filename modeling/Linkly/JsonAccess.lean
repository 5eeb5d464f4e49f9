import Linkly.JsonText
import Linkly.KeyedCache

/-!
JSON values in the hands of untyped JavaScript code: properties, iteration and conversion to text,
with the exceptions that they raise. `undefined` is `none`. The text of a number is a parameter.
-/
namespace JsonAccess
open JsText JsonText Utf8Text KeyedCache

inductive Fault where
  | typeError
  | rangeError
  deriving DecidableEq, Repr

section Outcomes
variable {ε α β : Type}

@[simp]
theorem pure_ok_iff {a b : α} : (pure a : Except ε α) = .ok b ↔ a = b := by
  simp [pure, Except.pure]

@[simp]
theorem throw_ne_ok {fault : ε} {a : α} : (throw fault : Except ε α) = .ok a ↔ False := by
  simp [throw, throwThe, MonadExceptOf.throw]

@[simp]
theorem bind_ok_iff {x : Except ε α} {f : α → Except ε β} {b : β} :
    (x >>= f) = .ok b ↔ ∃ a, x = .ok a ∧ f a = .ok b := by
  cases x <;> simp [bind, Except.bind]

@[simp]
theorem map_ok_iff {x : Except ε α} {f : α → β} {b : β} :
    f <$> x = .ok b ↔ ∃ a, x = .ok a ∧ f a = b := by
  cases x <;> simp [Functor.map, Except.map]

end Outcomes

/-- `value.name`, for a name that no prototype has. -/
def property (name : String) (value : Json) : Except Fault (Option Json) :=
  match value with
  | .null => throw .typeError
  | value => pure (value.member? (js name))

/-- `value?.name`, for a name that no prototype has. -/
def chain (name : String) (value : Option Json) : Option Json :=
  value.bind (Json.member? (js name))

/-- `value ?? default`. -/
def nullish (value : Option Json) (default : Json) : Json :=
  match value with
  | none => default
  | some .null => default
  | some value => value

/-- `typeof value === 'object'`, and the value is truthy. -/
def isObject : Json → Bool
  | .array _ => true
  | .object _ => true
  | _ => false

/-- The code points of a text, each as a text. -/
def characters : JsString → List JsString
  | [] => []
  | [u] => [[u]]
  | u :: v :: rest =>
    if isHigh u && isLow v then [u, v] :: characters rest else [u] :: characters (v :: rest)

/-- What `for (const item of value)` goes through. -/
def iterate : Json → Except Fault (List Json)
  | .array items => pure items
  | .string text => pure ((characters text).map .string)
  | _ => throw .typeError

section Conversion
variable (numberText : JsString → JsString)

mutual

/-- `String(value)`. A parsed member is no function, so an object with a `toString` of its own
    cannot be converted. -/
def toText : Json → Except Fault JsString
  | .null => pure (js "null")
  | .bool value => pure (if value then js "true" else js "false")
  | .number literal => pure (numberText literal)
  | .string value => pure value
  | .array items => do return joined (unit ',') (← itemTexts items)
  | .object members =>
    if ((Json.object members).member? (js "toString")).isSome then throw .typeError
    else pure (js "[object Object]")

/-- The texts that `join` puts together: null leaves nothing. -/
def itemTexts : List Json → Except Fault (List JsString)
  | [] => pure []
  | item :: items => do
    let text ← match item with
      | .null => pure []
      | item => toText item
    return text :: (← itemTexts items)

end

end Conversion

mutual

/-- No object that is met in converting the value has a `toString` of its own. -/
def printable : Json → Bool
  | .array items => allPrintable items
  | .object members => ((Json.object members).member? (js "toString")).isNone
  | _ => true

def allPrintable : List Json → Bool
  | [] => true
  | item :: items => printable item && allPrintable items

end

section Lemmas
variable {numberText : JsString → JsString}

theorem property_ok_iff {name : String} {value : Json} {found : Option Json} :
    property name value = .ok found ↔ value ≠ .null ∧ value.member? (js name) = found := by
  cases value <;> simp [property]

theorem property_of_ne_null {value : Json} (found : value ≠ .null) (name : String) :
    property name value = .ok (value.member? (js name)) :=
  property_ok_iff.mpr ⟨found, rfl⟩

mutual

theorem to_text_ok_iff : ∀ value : Json,
    (∃ text, toText numberText value = .ok text) ↔ printable value = true
  | .null => by simp [toText, printable]
  | .bool _ => by simp [toText, printable]
  | .number _ => by simp [toText, printable]
  | .string _ => by simp [toText, printable]
  | .array items => by
    have texts := item_texts_ok_iff items
    simp [toText, printable, ← texts]
  | .object members => by
    rw [toText, printable]
    cases (Json.object members).member? (js "toString") <;> simp

theorem item_texts_ok_iff : ∀ items : List Json,
    (∃ texts, itemTexts numberText items = .ok texts) ↔ allPrintable items = true
  | [] => by simp [itemTexts, allPrintable]
  | item :: items => by
    have head := to_text_ok_iff item
    have tail := item_texts_ok_iff items
    rw [allPrintable, Bool.and_eq_true, ← head, ← tail]
    cases item <;> simp [itemTexts, toText]

end

end Lemmas

example : toText id (.array [.number (js "1"), .null, .array [.string (js "a"), .object []]]) =
    .ok (js "1,,a,[object Object]") := by rfl

end JsonAccess
