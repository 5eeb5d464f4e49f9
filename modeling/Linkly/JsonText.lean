import Linkly.ByteText
import Linkly.Utf8Text
import Mathlib.Data.Bool.AllAny

/-!
JSON as text: `JSON.stringify` on objects whose members are strings or null, and `JSON.parse`. A
number is kept as its literal. Depth is bounded by fuel; a text has enough of it in its length.
-/
namespace JsonText
open JsText ByteText Utf8Text

def quotation : UInt16 := 0x22
def backslash : UInt16 := 0x5C
def openBrace : UInt16 := 0x7B
def closeBrace : UInt16 := 0x7D

section Stringify

def hexDigit (n : Nat) : UInt16 := if n < 10 then UInt16.ofNat (48 + n) else UInt16.ofNat (87 + n)

def hex4 (u : UInt16) : JsString :=
  [hexDigit (u.toNat / 0x1000), hexDigit (u.toNat / 0x100 % 0x10), hexDigit (u.toNat / 0x10 % 0x10),
    hexDigit (u.toNat % 0x10)]

def escape (u : UInt16) : JsString :=
  if u = quotation then [backslash, quotation]
  else if u = backslash then [backslash, backslash]
  else if u = 0x08 then [backslash, unit 'b']
  else if u = 0x0C then [backslash, unit 'f']
  else if u = 0x0A then [backslash, unit 'n']
  else if u = 0x0D then [backslash, unit 'r']
  else if u = 0x09 then [backslash, unit 't']
  else if u < 0x20 || isSurrogate u then backslash :: unit 'u' :: hex4 u
  else [u]

/-- Only a surrogate that stands alone is escaped. -/
def quoteUnits : JsString → JsString
  | [] => []
  | [u] => escape u
  | u :: v :: rest =>
    if isHigh u && isLow v then u :: v :: quoteUnits rest else escape u ++ quoteUnits (v :: rest)

def quote (text : JsString) : JsString := quotation :: quoteUnits text ++ [quotation]

def scalarText : Option JsString → JsString
  | none => js "null"
  | some text => quote text

def memberText (member : JsString × Option JsString) : JsString :=
  quote member.1 ++ unit ':' :: scalarText member.2

def membersText : List (JsString × Option JsString) → JsString
  | [] => []
  | [member] => memberText member
  | member :: members => memberText member ++ unit ',' :: membersText members

def stringify (members : List (JsString × Option JsString)) : JsString :=
  openBrace :: membersText members ++ [closeBrace]

end Stringify

section Parse

inductive Json where
  | null
  | bool (value : Bool)
  | number (literal : JsString)
  | string (value : JsString)
  | array (items : List Json)
  | object (members : List (JsString × Json))

/-- A name that is given twice has its last value. -/
def Json.member? (name : JsString) : Json → Option Json
  | .object members => members.reverse.lookup name
  | _ => none

def skipBlanks (text : JsString) : JsString :=
  text.dropWhile fun u => u = 0x20 ∨ u = 0x0A ∨ u = 0x0D ∨ u = 0x09

def escaped (e : UInt16) : Option UInt16 :=
  if e = quotation ∨ e = backslash ∨ e = unit '/' then some e
  else if e = unit 'b' then some 0x08
  else if e = unit 'f' then some 0x0C
  else if e = unit 'n' then some 0x0A
  else if e = unit 'r' then some 0x0D
  else if e = unit 't' then some 0x09
  else none

def hexUnit (a b c d : UInt16) : Option UInt16 := do
  let high ← hexValue a
  let second ← hexValue b
  let third ← hexValue c
  let low ← hexValue d
  return UInt16.ofNat (((high * 16 + second) * 16 + third) * 16 + low)

def before (u : UInt16) (read : Option (JsString × JsString)) : Option (JsString × JsString) :=
  read.map fun (text, rest) => (u :: text, rest)

/-- The string that starts behind a quotation mark, and the text behind its end. -/
def unquote : JsString → Option (JsString × JsString)
  | [] => none
  | u :: rest =>
    if u = quotation then some ([], rest)
    else if u = backslash then
      match rest with
      | [] => none
      | e :: more =>
        if e = unit 'u' then
          match more with
          | a :: b :: c :: d :: tail => (hexUnit a b c d).bind fun v => before v (unquote tail)
          | _ => none
        else (escaped e).bind fun v => before v (unquote more)
    else if u < 0x20 then none
    else before u (unquote rest)

def afterDigits : JsString → Option JsString
  | u :: rest => if isDigit u then some (rest.dropWhile isDigit) else none
  | [] => none

def afterInteger : JsString → Option JsString
  | u :: rest => if u = unit '0' then some rest else afterDigits (u :: rest)
  | [] => none

def afterFraction : JsString → Option JsString
  | u :: rest => if u = unit '.' then afterDigits rest else some (u :: rest)
  | [] => some []

def afterExponent : JsString → Option JsString
  | u :: rest =>
    if u = unit 'e' ∨ u = unit 'E' then
      match rest with
      | sign :: digits =>
        afterDigits (if sign = unit '+' ∨ sign = unit '-' then digits else sign :: digits)
      | [] => none
    else some (u :: rest)
  | [] => some []

def afterNumber (text : JsString) : Option JsString := do
  let unsigned := if text.head? = some (unit '-') then text.tail else text
  afterExponent (← afterFraction (← afterInteger unsigned))

def parseNumber (text : JsString) : Option (Json × JsString) :=
  (afterNumber text).map fun rest => (.number (text.take (text.length - rest.length)), rest)

def parseWord (word : String) (value : Json) (text : JsString) : Option (Json × JsString) :=
  if (js word).isPrefixOf text then some (value, text.drop (js word).length) else none

/-- The name of a member, with the colon behind it. -/
def parseName (text : JsString) : Option (JsString × JsString) :=
  match skipBlanks text with
  | [] => none
  | u :: rest =>
    if u = quotation then
      match unquote rest with
      | none => none
      | some (name, rest) =>
        match skipBlanks rest with
        | [] => none
        | v :: rest => if v = unit ':' then some (name, rest) else none
    else none

mutual

def parseValue : Nat → JsString → Option (Json × JsString)
  | 0, _ => none
  | fuel + 1, text =>
    match skipBlanks text with
    | [] => none
    | u :: rest =>
      if u = quotation then (unquote rest).map fun (value, rest) => (.string value, rest)
      else if u = openBrace then
        if (skipBlanks rest).head? = some closeBrace then some (.object [], (skipBlanks rest).tail)
        else (parseMembers fuel rest).map fun (members, rest) => (.object members, rest)
      else if u = unit '[' then
        if (skipBlanks rest).head? = some (unit ']') then some (.array [], (skipBlanks rest).tail)
        else (parseItems fuel rest).map fun (items, rest) => (.array items, rest)
      else if u = unit 'n' then parseWord "null" .null (u :: rest)
      else if u = unit 't' then parseWord "true" (.bool true) (u :: rest)
      else if u = unit 'f' then parseWord "false" (.bool false) (u :: rest)
      else parseNumber (u :: rest)

def parseItems : Nat → JsString → Option (List Json × JsString)
  | 0, _ => none
  | fuel + 1, text =>
    match parseValue fuel text with
    | none => none
    | some (item, rest) =>
      match skipBlanks rest with
      | [] => none
      | u :: rest =>
        if u = unit ']' then some ([item], rest)
        else if u = unit ',' then
          (parseItems fuel rest).map fun (items, rest) => (item :: items, rest)
        else none

def parseMembers : Nat → JsString → Option (List (JsString × Json) × JsString)
  | 0, _ => none
  | fuel + 1, text =>
    match parseName text with
    | none => none
    | some (name, rest) =>
      match parseValue fuel rest with
      | none => none
      | some (value, rest) =>
        match skipBlanks rest with
        | [] => none
        | u :: rest =>
          if u = closeBrace then some ([(name, value)], rest)
          else if u = unit ',' then
            (parseMembers fuel rest).map fun (members, rest) => ((name, value) :: members, rest)
          else none

end

def parse (text : JsString) : Option Json :=
  match parseValue (2 * text.length + 2) text with
  | none => none
  | some (value, rest) => if skipBlanks rest = [] then some value else none

end Parse

section RoundTrip

theorem hex_value_digit : ∀ n < 16, hexValue (hexDigit n) = some n := by decide

theorem hex_unit_hex4 (u : UInt16) :
    hexUnit (hexDigit (u.toNat / 0x1000)) (hexDigit (u.toNat / 0x100 % 0x10))
      (hexDigit (u.toNat / 0x10 % 0x10)) (hexDigit (u.toNat % 0x10)) = some u := by
  have small := u.toNat_lt
  have whole : ((u.toNat / 0x1000 * 16 + u.toNat / 0x100 % 0x10) * 16 + u.toNat / 0x10 % 0x10) * 16 +
      u.toNat % 0x10 = u.toNat := by omega
  simp only [hexUnit, hex_value_digit _ (show u.toNat / 0x1000 < 16 by omega),
    hex_value_digit _ (Nat.mod_lt _ (by decide : 0 < 16)), bind, Option.bind, pure, whole,
    UInt16.ofNat_toNat]

theorem unquote_end (rest : JsString) : unquote (quotation :: rest) = some ([], rest) := by
  rw [unquote.eq_def]
  simp

theorem unquote_plain {u : UInt16} (plain : u ≠ quotation ∧ u ≠ backslash ∧ ¬ u < 0x20)
    (rest : JsString) : unquote (u :: rest) = before u (unquote rest) := by
  rw [unquote.eq_def]
  simp [plain]

theorem unquote_escaped {e v : UInt16} (short : e ≠ unit 'u') (value : escaped e = some v)
    (more : JsString) : unquote (backslash :: e :: more) = before v (unquote more) := by
  rw [unquote.eq_def]
  have marks : backslash ≠ quotation := by decide
  simp [marks, short, value]

theorem unquote_hex {a b c d u : UInt16} (value : hexUnit a b c d = some u) (more : JsString) :
    unquote (backslash :: unit 'u' :: a :: b :: c :: d :: more) = before u (unquote more) := by
  rw [unquote.eq_def]
  have marks : backslash ≠ quotation := by decide
  simp [marks, value]

theorem unquote_escape (u : UInt16) (more : JsString) :
    unquote (escape u ++ more) = before u (unquote more) := by
  unfold escape
  split_ifs with quotes slash b f n r t control
  · rw [quotes]
    exact unquote_escaped (by decide) (by decide) more
  · rw [slash]
    exact unquote_escaped (by decide) (by decide) more
  · rw [b]
    exact unquote_escaped (by decide) (by decide) more
  · rw [f]
    exact unquote_escaped (by decide) (by decide) more
  · rw [n]
    exact unquote_escaped (by decide) (by decide) more
  · rw [r]
    exact unquote_escaped (by decide) (by decide) more
  · rw [t]
    exact unquote_escaped (by decide) (by decide) more
  · exact unquote_hex (hex_unit_hex4 u) more
  · have large : ¬ u < 0x20 := by
      intro small
      exact control (by simp [small])
    exact unquote_plain ⟨quotes, slash, large⟩ more

theorem large_plain {u : UInt16} (large : 0xD800 ≤ u.toNat) :
    u ≠ quotation ∧ u ≠ backslash ∧ ¬ u < 0x20 := by
  refine ⟨?_, ?_, ?_⟩
  · rintro rfl
    exact absurd large (by decide)
  · rintro rfl
    exact absurd large (by decide)
  · rw [UInt16.lt_iff_toNat_lt]
    have value : (0x20 : UInt16).toNat = 0x20 := rfl
    omega

theorem unquote_units (text rest : JsString) :
    unquote (quoteUnits text ++ quotation :: rest) = some (text, rest) := by
  induction text using quoteUnits.induct with
  | case1 => exact unquote_end rest
  | case2 u => rw [quoteUnits, unquote_escape, unquote_end, before, Option.map_some]
  | case3 u v more pair ih =>
    have bounds := pair_bounds pair
    have first := large_plain (u := u) (by omega)
    have second := large_plain (u := v) (by omega)
    rw [quoteUnits, if_pos pair, List.cons_append, List.cons_append, unquote_plain first,
      unquote_plain second, ih, before, before, Option.map_some, Option.map_some]
  | case4 u v more apart ih =>
    rw [quoteUnits, if_neg apart, List.append_assoc, unquote_escape, ih, before, Option.map_some]

/-- A quoted string in front of two texts that agree can be read back from them. -/
theorem quote_append_injective {a b x y : JsString} (same : quote a ++ x = quote b ++ y) :
    a = b ∧ x = y := by
  simp only [quote, List.cons_append, List.append_assoc, List.nil_append] at same
  have read := congrArg unquote (List.cons.inj same).2
  rw [unquote_units, unquote_units] at read
  exact Prod.mk.inj (Option.some.inj read)

theorem skip_no_blank {u : UInt16} (dark : ¬ (u = 0x20 ∨ u = 0x0A ∨ u = 0x0D ∨ u = 0x09))
    (rest : JsString) : skipBlanks (u :: rest) = u :: rest := by
  simp [skipBlanks, dark]

theorem parse_name_quote (name rest : JsString) :
    parseName (quote name ++ unit ':' :: rest) = some (name, rest) := by
  have quotes : skipBlanks (quotation :: (quoteUnits name ++ quotation :: unit ':' :: rest)) =
      quotation :: (quoteUnits name ++ quotation :: unit ':' :: rest) := skip_no_blank (by decide) _
  have colon : skipBlanks (unit ':' :: rest) = unit ':' :: rest := skip_no_blank (by decide) _
  simp [parseName, quote, quotes, unquote_units, colon]

def scalar : Option JsString → Json
  | none => .null
  | some text => .string text

theorem parse_scalar (value : Option JsString) (fuel : Nat) (rest : JsString) :
    parseValue (fuel + 1) (scalarText value ++ rest) = some (scalar value, rest) := by
  cases value with
  | none =>
    have start : skipBlanks (js "null" ++ rest) = unit 'n' :: (js "ull" ++ rest) :=
      skip_no_blank (by decide) _
    have word : parseWord "null" .null (unit 'n' :: (js "ull" ++ rest)) = some (.null, rest) := by
      simp [parseWord, js]
    simp only [scalarText, scalar, parseValue, start, word]
    simp [unit, quotation, openBrace]
  | some text =>
    have start : skipBlanks (quotation :: (quoteUnits text ++ quotation :: rest)) =
        quotation :: (quoteUnits text ++ quotation :: rest) := skip_no_blank (by decide) _
    simp [scalarText, scalar, quote, parseValue, start, unquote_units]

theorem parse_members {members : List (JsString × Option JsString)} (some_member : members ≠ [])
    {fuel : Nat} (enough : members.length < fuel) (rest : JsString) :
    parseMembers fuel (membersText members ++ closeBrace :: rest) =
      some (members.map fun m => (m.1, scalar m.2), rest) := by
  induction members using membersText.induct generalizing fuel with
  | case1 => exact absurd rfl some_member
  | case2 m =>
    obtain ⟨fuel, rfl⟩ : ∃ n, fuel = n + 2 := ⟨fuel - 2, by simp at enough; omega⟩
    have close : skipBlanks (closeBrace :: rest) = closeBrace :: rest := skip_no_blank (by decide) _
    simp [membersText, memberText, parseMembers, parse_name_quote, parse_scalar, close]
  | case3 m members more ih =>
    obtain ⟨fuel, rfl⟩ : ∃ n, fuel = n + 2 := ⟨fuel - 2, by simp at enough; omega⟩
    have fewer : members.length < fuel + 1 := by
      simp only [List.length_cons] at enough
      omega
    have later := ih more fewer
    have comma : skipBlanks (unit ',' :: (membersText members ++ closeBrace :: rest)) =
        unit ',' :: (membersText members ++ closeBrace :: rest) := skip_no_blank (by decide) _
    have apart : unit ',' ≠ closeBrace := by decide
    simp only [membersText, memberText, List.append_assoc, List.cons_append]
    rw [parseMembers]
    simp only [parse_name_quote, parse_scalar, comma, apart, later, ↓reduceIte, Option.map_some,
      List.map_cons]

theorem members_text_length (members : List (JsString × Option JsString)) :
    members.length ≤ (membersText members).length := by
  induction members using membersText.induct with
  | case1 => simp
  | case2 m =>
    simp only [membersText, memberText, List.length_append, List.length_cons, List.length_nil]
    omega
  | case3 m members more ih =>
    simp only [membersText, List.length_append, List.length_cons]
    omega

/-- Parsing gives back every object that was written. -/
theorem parse_stringify (members : List (JsString × Option JsString)) :
    parse (stringify members) = some (.object (members.map fun m => (m.1, scalar m.2))) := by
  have start (rest : JsString) : skipBlanks (openBrace :: rest) = openBrace :: rest :=
    skip_no_blank (by decide) rest
  have close : skipBlanks [closeBrace] = [closeBrace] := skip_no_blank (by decide) []
  have marks : openBrace ≠ quotation := by decide
  have read : parseValue (2 * (stringify members).length + 2) (stringify members) =
      some (.object (members.map fun m => (m.1, scalar m.2)), []) := by
    rw [parseValue]
    cases members with
    | nil => simp [stringify, membersText, start, marks, close]
    | cons m more =>
      obtain ⟨rest, opened⟩ :
          ∃ rest, membersText (m :: more) ++ [closeBrace] = quotation :: rest := by
        cases more <;> exact ⟨_, rfl⟩
      have dark : skipBlanks (quotation :: rest) = quotation :: rest := skip_no_blank (by decide) rest
      have apart : quotation ≠ closeBrace := by decide
      have enough : (m :: more).length < 2 * (stringify (m :: more)).length + 1 := by
        have inner := members_text_length (m :: more)
        simp only [stringify, List.cons_append, List.length_cons, List.length_append] at inner ⊢
        omega
      have inside := parse_members (List.cons_ne_nil m more) enough []
      rw [opened] at inside
      simp only [stringify, List.cons_append, opened, start, marks, dark, ↓reduceIte] at inside ⊢
      simp only [List.head?_cons, Option.some.injEq, apart, ↓reduceIte, inside, Option.map_some]
  rw [parse, read]
  rfl

theorem well_formed_cons {u : UInt16} (alone : isSurrogate u = false) (rest : JsString) :
    wellFormed (u :: rest) = wellFormed rest := by
  cases rest with
  | nil => simp [wellFormed, alone]
  | cons v rest =>
    have not_high : isHigh u = false := (Bool.or_eq_false_iff.mp alone).1
    simp [wellFormed, alone, not_high]

theorem well_formed_append {front : JsString} (alone : ∀ u ∈ front, isSurrogate u = false)
    (rest : JsString) : wellFormed (front ++ rest) = wellFormed rest := by
  induction front with
  | nil => rfl
  | cons u front ih =>
    rw [List.cons_append, well_formed_cons (alone u List.mem_cons_self),
      ih fun v mem => alone v (List.mem_cons_of_mem u mem)]

theorem hex_digit_alone : ∀ n < 16, isSurrogate (hexDigit n) = false := by decide

theorem escape_alone {u : UInt16} : ∀ v ∈ escape u, isSurrogate v = false := by
  have small := u.toNat_lt
  have short : ∀ e : UInt16, isSurrogate e = false → ∀ v ∈ [backslash, e], isSurrogate v = false := by
    intro e alone v mem
    rcases List.mem_pair.mp mem with rfl | rfl
    · decide
    · exact alone
  unfold escape
  split_ifs with quotes slash b f n r t control
  · exact short quotation (by decide)
  · exact short backslash (by decide)
  · exact short (unit 'b') (by decide)
  · exact short (unit 'f') (by decide)
  · exact short (unit 'n') (by decide)
  · exact short (unit 'r') (by decide)
  · exact short (unit 't') (by decide)
  · have first := hex_digit_alone (u.toNat / 0x1000) (by omega)
    have second := hex_digit_alone (u.toNat / 0x100 % 0x10) (by omega)
    have third := hex_digit_alone (u.toNat / 0x10 % 0x10) (by omega)
    have fourth := hex_digit_alone (u.toNat % 0x10) (by omega)
    have marks : isSurrogate backslash = false ∧ isSurrogate (unit 'u') = false := by decide
    simp [hex4, marks, first, second, third, fourth]
  · have plain : isSurrogate u = false := by
      cases lone : isSurrogate u with
      | false => rfl
      | true => exact absurd (by simp [lone]) control
    simpa using plain

theorem well_formed_units (text rest : JsString) :
    wellFormed (quoteUnits text ++ rest) = wellFormed rest := by
  induction text using quoteUnits.induct with
  | case1 => rfl
  | case2 u => exact well_formed_append escape_alone rest
  | case3 u v more pair ih =>
    rw [quoteUnits, if_pos pair, List.cons_append, List.cons_append, wellFormed, if_pos pair, ih]
  | case4 u v more apart ih =>
    rw [quoteUnits, if_neg apart, List.append_assoc, well_formed_append escape_alone, ih]

theorem well_formed_quote (text rest : JsString) :
    wellFormed (quote text ++ rest) = wellFormed rest := by
  have mark : isSurrogate quotation = false := by decide
  rw [quote, List.cons_append, List.cons_append, well_formed_cons mark, List.append_assoc,
    well_formed_units, List.singleton_append, well_formed_cons mark]

theorem well_formed_scalar (value : Option JsString) (rest : JsString) :
    wellFormed (scalarText value ++ rest) = wellFormed rest := by
  cases value with
  | none => exact well_formed_append (List.all_iff_forall_prop.mp (by decide)) rest
  | some text => exact well_formed_quote text rest

theorem well_formed_members (members : List (JsString × Option JsString)) (rest : JsString) :
    wellFormed (membersText members ++ rest) = wellFormed rest := by
  have colon : isSurrogate (unit ':') = false := by decide
  have comma : isSurrogate (unit ',') = false := by decide
  have one (m : JsString × Option JsString) (rest : JsString) :
      wellFormed (memberText m ++ rest) = wellFormed rest := by
    rw [memberText, List.append_assoc, well_formed_quote, List.cons_append, well_formed_cons colon,
      well_formed_scalar]
  induction members using membersText.induct with
  | case1 => rfl
  | case2 m => exact one m rest
  | case3 m members more ih =>
    rw [membersText, List.append_assoc, one, List.cons_append, well_formed_cons comma, ih]
    exact more

/-- What is written has no lone surrogate, whatever the strings hold. -/
theorem stringify_well_formed (members : List (JsString × Option JsString)) :
    wellFormed (stringify members) = true := by
  have opened : isSurrogate openBrace = false := by decide
  rw [stringify, List.cons_append, well_formed_cons opened, well_formed_members]
  decide

end RoundTrip

end JsonText
