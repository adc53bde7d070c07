import Turbocat.Library.Numerals
import Turbocat.Python.Values

/-! The texts of the `json` module: what `dumps` writes for a `dict[str, str]` and how
`loads` reads any text. A text that was written is printable ASCII and reads back as what it
was written from.
-/

namespace Turbocat.Python.JsonText

open Turbocat.Library

-----------------------------------------------------------------------------------------
-- Writing
-----------------------------------------------------------------------------------------

/-- The UTF-16 code units of a character. -/
def unitsOf (character : Char) : List Nat :=
  let point := character.toNat
  if point < 0x10000 then [point]
  else [0xd800 + (point - 0x10000) / 0x400, 0xdc00 + (point - 0x10000) % 0x400]

/-- The escape `\uXXXX` of a code unit. -/
def unicodeEscape (unit : Nat) : List Char := '\\' :: 'u' :: numeral 16 4 unit

/-- `ESCAPE_DCT`: the letter after the backslash, for the characters that have one. -/
def escapeDct : List (Char × Char) :=
  [('\\', '\\'), ('"', '"'), ('\x08', 'b'), ('\x0c', 'f'), ('\n', 'n'), ('\r', 'r'), ('\t', 't')]

/-- One character inside a string that `dumps` writes. -/
def escapeAscii (character : Char) : List Char :=
  match escapeDct.lookup character with
  | some letter => ['\\', letter]
  | none =>
      if 0x20 ≤ character.toNat ∧ character.toNat ≤ 0x7e then [character]
      else (unitsOf character).flatMap unicodeEscape

/-- `encode_basestring_ascii`. -/
def encodeBasestringAscii (text : String) : List Char :=
  '"' :: text.toList.flatMap escapeAscii ++ ['"']

/-- The members of an object, separated by a comma and a blank. -/
def dumpsMembers : List (String × String) → List Char
  | [] => []
  | (key, value) :: rest =>
      let member := encodeBasestringAscii key ++ ':' :: ' ' :: encodeBasestringAscii value
      match rest with
      | [] => member
      | _ :: _ => member ++ ',' :: ' ' :: dumpsMembers rest

/-- `json.dumps` of a `dict[str, str]`. -/
def dumps (entries : List (String × String)) : String :=
  String.ofList ('\x7b' :: dumpsMembers entries ++ ['\x7d'])

-----------------------------------------------------------------------------------------
-- Reading strings
-----------------------------------------------------------------------------------------

/-- The value of a hexadecimal digit. -/
def hexValue (character : Char) : Option Nat :=
  if '0' ≤ character ∧ character ≤ '9' then some (character.toNat - 0x30)
  else if 'a' ≤ character ∧ character ≤ 'f' then some (character.toNat - 0x57)
  else if 'A' ≤ character ∧ character ≤ 'F' then some (character.toNat - 0x37)
  else none

/-- The code unit that four hexadecimal digits name. -/
def decodeUxxxx (first second third fourth : Char) : Option Nat := do
  let first ← hexValue first
  let second ← hexValue second
  let third ← hexValue third
  let fourth ← hexValue fourth
  return ((first * 16 + second) * 16 + third) * 16 + fourth

/-- The character a one-letter escape stands for. -/
def backslash (character : Char) : Option Nat :=
  match character with
  | '"' => some 0x22
  | '\\' => some 0x5c
  | '/' => some 0x2f
  | 'b' => some 0x08
  | 'f' => some 0x0c
  | 'n' => some 0x0a
  | 'r' => some 0x0d
  | 't' => some 0x09
  | _ => none

/-- The code units up to the closing quote, and the text after it. Control characters and
unknown escapes are rejected.
-/
def scanUnits : List Char → Option (List Nat × List Char)
  | [] => none
  | '"' :: rest => some ([], rest)
  | '\\' :: 'u' :: first :: second :: third :: fourth :: rest => do
      let unit ← decodeUxxxx first second third fourth
      let (units, rest) ← scanUnits rest
      return (unit :: units, rest)
  | '\\' :: character :: rest => do
      let unit ← backslash character
      let (units, rest) ← scanUnits rest
      return (unit :: units, rest)
  | character :: rest =>
      if character.toNat < 0x20 then none
      else do
        let (units, rest) ← scanUnits rest
        return (character.toNat :: units, rest)

def isHigh (unit : Nat) : Bool := decide (0xd800 ≤ unit ∧ unit ≤ 0xdbff)

def isLow (unit : Nat) : Bool := decide (0xdc00 ≤ unit ∧ unit ≤ 0xdfff)

/-- The characters of some code units, a pair of surrogates being one. A `str` may hold a
lone surrogate, a text of this model may not, so there nothing is read.
-/
def joinUnits : List Nat → Option (List Char)
  | [] => some []
  | [unit] => if isHigh unit || isLow unit then none else some [Char.ofNat unit]
  | high :: low :: rest =>
      if isHigh high && isLow low then
        (joinUnits rest).map
          (Char.ofNat (0x10000 + (high - 0xd800) * 0x400 + (low - 0xdc00)) :: ·)
      else if isHigh high || isLow high then none
      else (joinUnits (low :: rest)).map (Char.ofNat high :: ·)

/-- `scanstring`, after the opening quote. -/
def scanstring (text : List Char) : Option (String × List Char) := do
  let (units, rest) ← scanUnits text
  let characters ← joinUnits units
  return (String.ofList characters, rest)

-----------------------------------------------------------------------------------------
-- Reading numbers
-----------------------------------------------------------------------------------------

def isDigit (character : Char) : Bool := decide ('0' ≤ character ∧ character ≤ '9')

/-- The number some decimal digits name. -/
def decimal (digits : List Char) : Nat :=
  digits.foldl (fun number digit => number * 10 + (digit.toNat - 0x30)) 0

/-- The digits after a point, where there are some. -/
def fraction (text : List Char) : List Char × List Char :=
  match text with
  | '.' :: tail =>
      match tail.span isDigit with
      | ([], _) => ([], text)
      | (digits, rest) => (digits, rest)
  | _ => ([], text)

/-- The digits of an exponent after its sign, or `text` as it was where there are none. -/
def exponentDigits (text : List Char) (sign : Int) (tail : List Char) : Option Int × List Char :=
  match tail.span isDigit with
  | ([], _) => (none, text)
  | (digits, rest) => (some (sign * decimal digits), rest)

/-- The exponent after an `e`, where there is one. -/
def exponent (text : List Char) : Option Int × List Char :=
  match text with
  | letter :: tail =>
      if letter = 'e' ∨ letter = 'E' then
        match tail with
        | '-' :: digits => exponentDigits text (-1) digits
        | '+' :: digits => exponentDigits text 1 digits
        | digits => exponentDigits text 1 digits
      else (none, text)
  | [] => (none, text)

/-- The digits before a point: a zero, or the digits there are. -/
def wholeDigits (text : List Char) : List Char × List Char :=
  match text with
  | '0' :: rest => (['0'], rest)
  | text => text.span isDigit

/-- A number after its sign: an `int` of at most 4300 digits, or a `float` where it has a
fraction or an exponent.
-/
def matchNumber (sign : Int) (text : List Char) : Option (Json × List Char) :=
  let (whole, rest) := wholeDigits text
  if whole.isEmpty then none
  else
    let (digits, rest) := fraction rest
    let (power, rest) := exponent rest
    if digits.isEmpty ∧ power.isNone then
      if 4300 < whole.length then none else some (.int (sign * decimal whole), rest)
    else
      let mantissa : Rat := sign * decimal (whole ++ digits)
      some (.float (toDouble (mantissa * 10 ^ (power.getD 0 - digits.length))), rest)

-----------------------------------------------------------------------------------------
-- Reading values
-----------------------------------------------------------------------------------------

def isBlank (character : Char) : Bool :=
  decide (character = ' ' ∨ character = '\t' ∨ character = '\n' ∨ character = '\r')

/-- The text after blanks. -/
def skip (text : List Char) : List Char := text.dropWhile isBlank

/-- `entries[key] = value`. -/
def setItem (entries : Dict) (key : String) (value : Json) : Dict :=
  if (entries.lookup key).isSome then
    entries.map (fun entry => if entry.1 = key then (key, value) else entry)
  else entries ++ [(key, value)]

/-- What a value starts with: a string, an object, a list or all of another value. -/
inductive Start where
  | string (rest : List Char)
  | object (rest : List Char)
  | list (rest : List Char)
  | value (value : Json) (rest : List Char)

/-- The dispatch of `scan_once` on the first character. -/
def start (text : List Char) : Option Start :=
  match text with
  | '"' :: rest => some (.string rest)
  | '\x7b' :: rest => some (.object rest)
  | '[' :: rest => some (.list rest)
  | 'n' :: 'u' :: 'l' :: 'l' :: rest => some (.value .null rest)
  | 't' :: 'r' :: 'u' :: 'e' :: rest => some (.value (.bool true) rest)
  | 'f' :: 'a' :: 'l' :: 's' :: 'e' :: rest => some (.value (.bool false) rest)
  | 'N' :: 'a' :: 'N' :: rest => some (.value (.float .nan) rest)
  | 'I' :: 'n' :: 'f' :: 'i' :: 'n' :: 'i' :: 't' :: 'y' :: rest =>
      some (.value (.float (.infinity false)) rest)
  | '-' :: 'I' :: 'n' :: 'f' :: 'i' :: 'n' :: 'i' :: 't' :: 'y' :: rest =>
      some (.value (.float (.infinity true)) rest)
  | '-' :: rest => (matchNumber (-1) rest).map (fun read => .value read.1 read.2)
  | text => (matchNumber 1 text).map (fun read => .value read.1 read.2)

mutual

/-- `scan_once`: the value at the start of a text and the text after it. -/
def scanOnce : Nat → List Char → Option (Json × List Char)
  | 0, _ => none
  | fuel + 1, text =>
      match start text with
      | none => none
      | some (.string rest) => (scanstring rest).map (fun read => (.str read.1, read.2))
      | some (.object rest) =>
          match skip rest with
          | '\x7d' :: rest => some (.dict [], rest)
          | rest => (jsonObject fuel [] rest).map (fun read => (.dict read.1, read.2))
      | some (.list rest) =>
          match skip rest with
          | ']' :: rest => some (.list [], rest)
          | rest => (jsonArray fuel rest).map (fun read => (.list read.1, read.2))
      | some (.value value rest) => some (value, rest)

/-- The members of an object that has some, after those in `entries`. -/
def jsonObject : Nat → Dict → List Char → Option (Dict × List Char)
  | 0, _, _ => none
  | fuel + 1, entries, text =>
      match text with
      | '"' :: rest => do
          let (key, rest) ← scanstring rest
          match skip rest with
          | ':' :: rest => do
              let (value, rest) ← scanOnce fuel (skip rest)
              match skip rest with
              | '\x7d' :: rest => some (setItem entries key value, rest)
              | ',' :: rest => jsonObject fuel (setItem entries key value) (skip rest)
              | _ => none
          | _ => none
      | _ => none

/-- The items of a list that has some. -/
def jsonArray : Nat → List Char → Option (List Json × List Char)
  | 0, _ => none
  | fuel + 1, text => do
      let (item, rest) ← scanOnce fuel text
      match skip rest with
      | ']' :: rest => some ([item], rest)
      | ',' :: rest => (jsonArray fuel (skip rest)).map (fun read => (item :: read.1, read.2))
      | _ => none

end

/-- The calls that reading a text can nest; `loads_fuel` says that they are enough. -/
def fuelOf (text : List Char) : Nat := 2 * text.length + 1

/-- `json.loads`, or nothing for the exception it raises. -/
def loads (text : String) : Option Json :=
  let text := skip text.toList
  match scanOnce (fuelOf text) text with
  | some (value, rest) => if (skip rest).isEmpty then some value else none
  | none => none

-----------------------------------------------------------------------------------------
-- Reading goes on to the end
-----------------------------------------------------------------------------------------

attribute [local simp] scanUnits scanOnce jsonObject jsonArray start

theorem skip_length (text : List Char) : (skip text).length ≤ text.length :=
  (List.dropWhile_sublist isBlank).length_le

theorem scanUnits_length {text rest : List Char} {units : List Nat}
    (read : scanUnits text = some (units, rest))
    : rest.length < text.length := by
  induction text using scanUnits.induct generalizing units with
  | case1 => cases read
  | case2 tail =>
      cases read
      exact Nat.lt_succ_self _
  | case3 first second third fourth tail ih =>
      simp only [scanUnits, bind, Option.bind_eq_some_iff, pure, Option.some.injEq] at read
      obtain ⟨unit, _, ⟨more, left⟩, later, same⟩ := read
      cases same
      have shorter : left.length < tail.length := ih later
      simp only [List.length_cons]
      omega
  | case4 letter tail short ih =>
      rw [scanUnits] at read
      · simp only [bind, Option.bind_eq_some_iff, pure, Option.some.injEq] at read
        obtain ⟨unit, _, ⟨more, left⟩, later, same⟩ := read
        cases same
        have shorter : left.length < tail.length := ih later
        simp only [List.length_cons]
        omega
      · exact short
  | case5 character tail quote long short control =>
      rw [scanUnits] at read
      · rw [if_pos control] at read
        cases read
      · exact quote
      · exact long
      · exact short
  | case6 character tail quote long short control ih =>
      rw [scanUnits] at read
      · rw [if_neg control] at read
        simp only [bind, Option.bind_eq_some_iff, pure, Option.some.injEq] at read
        obtain ⟨⟨more, left⟩, later, same⟩ := read
        cases same
        exact Nat.lt_succ_of_lt (ih later)
      · exact quote
      · exact long
      · exact short

theorem scanstring_length {text rest : List Char} {value : String}
    (read : scanstring text = some (value, rest))
    : rest.length < text.length := by
  simp only [scanstring, bind, Option.bind_eq_some_iff, pure, Option.some.injEq] at read
  obtain ⟨⟨units, left⟩, scanned, characters, _, same⟩ := read
  cases same
  exact scanUnits_length scanned

theorem span_length (text : List Char) : (text.span isDigit).2.length ≤ text.length := by
  rw [List.span_eq_takeWhile_dropWhile]
  exact (List.dropWhile_sublist isDigit).length_le

theorem fraction_length (text : List Char) : (fraction text).2.length ≤ text.length := by
  unfold fraction
  split
  · next tail =>
      have bound := span_length tail
      split
      · exact Nat.le_refl _
      · next digits rest spanned =>
          rw [spanned] at bound
          exact Nat.le_succ_of_le bound
  · exact Nat.le_refl _

theorem exponentDigits_length {text tail : List Char} (sign : Int)
    (inside : tail.length ≤ text.length)
    : (exponentDigits text sign tail).2.length ≤ text.length := by
  have bound := span_length tail
  unfold exponentDigits
  split
  · exact Nat.le_refl _
  · next digits rest spanned =>
      rw [spanned] at bound
      exact Nat.le_trans bound inside

theorem exponent_length (text : List Char) : (exponent text).2.length ≤ text.length := by
  unfold exponent
  split
  · split
    · split
      · exact exponentDigits_length _ (by simp only [List.length_cons]; omega)
      · exact exponentDigits_length _ (by simp only [List.length_cons]; omega)
      · exact exponentDigits_length _ (Nat.le_succ _)
    · exact Nat.le_refl _
  · exact Nat.le_refl _

/-- The digits of a whole number leave less of the text. -/
theorem wholeDigits_length {text : List Char} (some_ : ¬ (wholeDigits text).1.isEmpty = true)
    : (wholeDigits text).2.length < text.length := by
  cases text with
  | nil => exact absurd rfl some_
  | cons character tail =>
      by_cases zero : character = '0'
      · subst zero
        exact Nat.lt_succ_self _
      · have digits : wholeDigits (character :: tail) = (character :: tail).span isDigit := by
          rw [wholeDigits]
          exact fun _ same => zero (List.cons.inj same).1
        rw [digits, List.span_eq_takeWhile_dropWhile] at some_ ⊢
        cases digit : isDigit character with
        | false => simp [digit] at some_
        | true =>
            rw [List.dropWhile_cons_of_pos digit]
            exact Nat.lt_succ_of_le (List.dropWhile_sublist isDigit).length_le

theorem matchNumber_length {sign : Int} {text rest : List Char} {value : Json}
    (read : matchNumber sign text = some (value, rest))
    : rest.length < text.length := by
  unfold matchNumber at read
  have whole := @wholeDigits_length text
  have fraction_ := fraction_length (wholeDigits text).2
  have exponent_ := exponent_length (fraction (wholeDigits text).2).2
  have left
      : rest = (exponent (fraction (wholeDigits text).2).2).2
        ∧ ¬ (wholeDigits text).1.isEmpty = true := by
    dsimp only at read
    split at read
    · cases read
    · next some_ =>
        split at read
        · split at read
          · cases read
          · cases read
            exact ⟨rfl, some_⟩
        · cases read
          exact ⟨rfl, some_⟩
  have shorter := whole left.2
  rw [left.1]
  omega

/-- What a text starts with is followed by less of it. -/
theorem start_length {text : List Char} {begins : Start} (started : start text = some begins)
    : match begins with
      | .string rest => rest.length < text.length
      | .object rest => rest.length < text.length
      | .list rest => rest.length < text.length
      | .value _ rest => rest.length < text.length := by
  have number {sign : Int} {tail : List Char} {begins : Start}
      (read : (matchNumber sign tail).map (fun read => Start.value read.1 read.2) = some begins)
      : ∃ value rest, begins = .value value rest ∧ rest.length < tail.length := by
    obtain ⟨⟨value, rest⟩, matched, rfl⟩ := Option.map_eq_some_iff.mp read
    exact ⟨value, rest, rfl, matchNumber_length matched⟩
  unfold start at started
  split at started
  all_goals
    first
    | cases started
      simp only [List.length_cons]
      omega
    | obtain ⟨value, rest, rfl, shorter⟩ := number started
      simp only [List.length_cons] at shorter ⊢
      omega

/-- Reading leaves less of a text, by induction over the fuel. -/
theorem scan_length (fuel : Nat)
    : (∀ text value rest,
        scanOnce fuel text = some (value, rest) → rest.length < text.length)
      ∧ (∀ entries text members rest,
          jsonObject fuel entries text = some (members, rest) → rest.length < text.length)
      ∧ ∀ text items rest,
          jsonArray fuel text = some (items, rest) → rest.length < text.length := by
  induction fuel with
  | zero =>
      refine ⟨?_, ?_, ?_⟩
      · intro text value rest read
        cases read
      · intro entries text members rest read
        cases read
      · intro text items rest read
        cases read
  | succ fuel ih =>
      obtain ⟨value_, object_, array_⟩ := ih
      refine ⟨?_, ?_, ?_⟩
      · intro text value rest read
        rw [scanOnce] at read
        split at read
        · cases read
        · next inside started =>
            have shorter := start_length started
            obtain ⟨⟨text, left⟩, scanned, same⟩ := Option.map_eq_some_iff.mp read
            cases same
            exact Nat.lt_trans (scanstring_length scanned) shorter
        · next inside started =>
            have shorter := start_length started
            have blanks := skip_length inside
            split at read
            · next closed =>
                cases read
                rw [closed, List.length_cons] at blanks
                dsimp only at shorter
                omega
            · obtain ⟨⟨members, left⟩, scanned, same⟩ := Option.map_eq_some_iff.mp read
              cases same
              have later := object_ _ _ _ _ scanned
              dsimp only at shorter ⊢
              omega
        · next inside started =>
            have shorter := start_length started
            have blanks := skip_length inside
            split at read
            · next closed =>
                cases read
                rw [closed, List.length_cons] at blanks
                dsimp only at shorter
                omega
            · obtain ⟨⟨items, left⟩, scanned, same⟩ := Option.map_eq_some_iff.mp read
              cases same
              have later := array_ _ _ _ scanned
              dsimp only at shorter ⊢
              omega
        · next started =>
            cases read
            exact start_length started
      · intro entries text members rest read
        unfold jsonObject at read
        split at read
        · next inside =>
            obtain ⟨⟨key, afterKey⟩, scanned, read⟩ := Option.bind_eq_some_iff.mp read
            have keyShorter := scanstring_length scanned
            have keyBlanks := skip_length afterKey
            simp only [List.length_cons]
            dsimp only at read
            split at read
            · next afterColon colon =>
                rw [colon, List.length_cons] at keyBlanks
                obtain ⟨⟨value, afterValue⟩, valued, read⟩ := Option.bind_eq_some_iff.mp read
                have colonBlanks := skip_length afterColon
                have valueShorter := value_ _ _ _ valued
                have valueBlanks := skip_length afterValue
                dsimp only at read
                split at read
                · next closed =>
                    cases read
                    rw [closed, List.length_cons] at valueBlanks
                    omega
                · next afterComma comma =>
                    rw [comma, List.length_cons] at valueBlanks
                    have commaBlanks := skip_length afterComma
                    have later := object_ _ _ _ _ read
                    omega
                · cases read
            · cases read
        · cases read
      · intro text items rest read
        unfold jsonArray at read
        obtain ⟨⟨item, afterItem⟩, valued, read⟩ := Option.bind_eq_some_iff.mp read
        have itemShorter := value_ _ _ _ valued
        have itemBlanks := skip_length afterItem
        dsimp only at read
        split at read
        · next closed =>
            cases read
            rw [closed, List.length_cons] at itemBlanks
            omega
        · next afterComma comma =>
            obtain ⟨⟨items, left⟩, later, same⟩ := Option.map_eq_some_iff.mp read
            cases same
            rw [comma, List.length_cons] at itemBlanks
            have commaBlanks := skip_length afterComma
            have shorter := array_ _ _ _ later
            dsimp only
            omega
        · cases read

/-- More fuel than a text can use reads the same, by induction over the fuel. -/
theorem scan_fuel (fuel : Nat)
    : ∀ more,
        fuel ≤ more
        → (∀ text, 2 * text.length + 1 ≤ fuel → scanOnce more text = scanOnce fuel text)
          ∧ (∀ entries text,
              2 * text.length + 1 ≤ fuel
              → jsonObject more entries text = jsonObject fuel entries text)
          ∧ ∀ text, 2 * text.length + 2 ≤ fuel → jsonArray more text = jsonArray fuel text := by
  induction fuel with
  | zero =>
      intro more _
      refine ⟨?_, ?_, ?_⟩
      · intro text bound
        omega
      · intro entries text bound
        omega
      · intro text bound
        omega
  | succ fuel ih =>
      intro more enough
      obtain ⟨more, rfl⟩ : ∃ less, more = less + 1 := Nat.exists_eq_succ_of_ne_zero (by omega)
      obtain ⟨value_, object_, array_⟩ := ih more (by omega)
      refine ⟨?_, ?_, ?_⟩
      · intro text bound
        rw [scanOnce, scanOnce]
        cases started : start text with
        | none => rfl
        | some begins =>
            have shorter := start_length started
            cases begins with
            | string rest => rfl
            | value value rest => rfl
            | object rest =>
                dsimp only at shorter ⊢
                have blanks := skip_length rest
                split
                · rfl
                · rw [object_ _ _ (by omega)]
            | list rest =>
                dsimp only at shorter ⊢
                have blanks := skip_length rest
                split
                · rfl
                · rw [array_ _ (by omega)]
      · intro entries text bound
        unfold jsonObject
        split
        · next inside =>
            simp only [List.length_cons] at bound
            cases scanned : scanstring inside with
            | none => rfl
            | some key =>
                have keyShorter := scanstring_length scanned
                have keyBlanks := skip_length key.2
                simp only [bind, Option.bind]
                split
                · next afterColon colon =>
                    rw [colon, List.length_cons] at keyBlanks
                    have colonBlanks := skip_length afterColon
                    rw [value_ _ (by omega)]
                    cases valued : scanOnce fuel (skip afterColon) with
                    | none => rfl
                    | some read =>
                        have valueShorter := (scan_length fuel).1 _ _ _ valued
                        have valueBlanks := skip_length read.2
                        dsimp only
                        split
                        · rfl
                        · next afterComma comma =>
                            rw [comma, List.length_cons] at valueBlanks
                            have commaBlanks := skip_length afterComma
                            exact object_ _ _ (by omega)
                        · rfl
                · rfl
        · rfl
      · intro text bound
        unfold jsonArray
        rw [value_ _ (by omega)]
        cases valued : scanOnce fuel text with
        | none => rfl
        | some read =>
            have itemShorter := (scan_length fuel).1 _ _ _ valued
            have itemBlanks := skip_length read.2
            simp only [bind, Option.bind]
            split
            · rfl
            · next afterComma comma =>
                rw [comma, List.length_cons] at itemBlanks
                have commaBlanks := skip_length afterComma
                rw [array_ _ (by omega)]
            · rfl

/-- The fuel of `loads` is enough: any more reads the same. -/
theorem loads_fuel (text : List Char) {fuel : Nat} (more : fuelOf text ≤ fuel)
    : scanOnce fuel text = scanOnce (fuelOf text) text :=
  (scan_fuel (fuelOf text) fuel more).1 text (Nat.le_refl _)

-----------------------------------------------------------------------------------------
-- A string reads back
-----------------------------------------------------------------------------------------

/-- Every hexadecimal digit that is written is read, by enumeration. -/
theorem hexValue_digitChar : ∀ digit < 16, hexValue (Nat.digitChar digit) = some digit := by
  decide

/-- The escape of a code unit reads back as the unit. -/
theorem scanUnits_unicodeEscape {unit : Nat} (small : unit < 0x10000) (rest : List Char)
    : scanUnits (unicodeEscape unit ++ rest)
      = (scanUnits rest).map (fun read => (unit :: read.1, read.2)) := by
  have digit (n : Nat) : hexValue (Nat.digitChar (n % 16)) = some (n % 16) :=
    hexValue_digitChar _ (Nat.mod_lt n (by decide))
  have whole
      : ((unit / 16 / 16 / 16 % 16 * 16 + unit / 16 / 16 % 16) * 16 + unit / 16 % 16) * 16
          + unit % 16
        = unit := by
    omega
  simp only [unicodeEscape, numeral, List.nil_append, List.cons_append, scanUnits, decodeUxxxx,
    digit, whole, bind, Option.bind, pure]
  cases scanUnits rest <;> rfl

/-- A character that is neither a quote, a backslash nor a control character stands for
itself.
-/
theorem scanUnits_plain {character : Char} (quote : character ≠ '"')
    (backslash_ : character ≠ '\\') (printable : ¬ character.toNat < 0x20) (rest : List Char)
    : scanUnits (character :: rest)
      = (scanUnits rest).map (fun read => (character.toNat :: read.1, read.2)) := by
  rw [scanUnits]
  · rw [if_neg printable]
    cases scanUnits rest <;> rfl
  · exact fun same => quote same
  · exact fun _ _ _ _ _ same => absurd same backslash_
  · exact fun _ _ same => absurd same backslash_

/-- A one-letter escape reads back as what it stands for. -/
theorem scanUnits_backslash {letter : Char} {unit : Nat} (known : backslash letter = some unit)
    (rest : List Char)
    : scanUnits ('\\' :: letter :: rest)
      = (scanUnits rest).map (fun read => (unit :: read.1, read.2)) := by
  have short : letter ≠ 'u' := by
    rintro rfl
    cases known
  rw [scanUnits]
  · simp only [known, bind, Option.bind, pure]
    cases scanUnits rest <;> rfl
  · exact fun _ _ _ _ _ same _ => short same

/-- The escapes of some code units read back as the units, by induction over them. -/
theorem scanUnits_unicodeEscapes {units : List Nat} (small : ∀ unit ∈ units, unit < 0x10000)
    (rest : List Char)
    : scanUnits (units.flatMap unicodeEscape ++ rest)
      = (scanUnits rest).map (fun read => (units ++ read.1, read.2)) := by
  induction units with
  | nil => cases same : scanUnits rest <;> simp [same]
  | cons unit others ih =>
      rw [List.flatMap_cons, List.append_assoc, scanUnits_unicodeEscape (small _ List.mem_cons_self),
        ih (fun other member => small other (List.mem_cons_of_mem _ member))]
      cases scanUnits rest <;> rfl

theorem toNat_lt (character : Char) : character.toNat < 0x110000 := by
  rcases character.valid with low | high
  · exact Nat.lt_trans low (by decide)
  · exact high.2

/-- The code units of a character have sixteen bits. -/
theorem unitsOf_small (character : Char) : ∀ unit ∈ unitsOf character, unit < 0x10000 := by
  intro unit member
  have bound := toNat_lt character
  unfold unitsOf at member
  simp only at member
  split at member
  · next small =>
      rw [List.mem_singleton.mp member]
      exact small
  · rcases List.mem_cons.mp member with rfl | low
    · omega
    · rw [List.mem_singleton.mp low]
      omega

/-- Every letter of the table reads back as its character, which has one code unit. -/
theorem escapeDct_reads
    : ∀ entry ∈ escapeDct,
        backslash entry.2 = some entry.1.toNat ∧ unitsOf entry.1 = [entry.1.toNat] := by
  decide

/-- What is written for a character reads back as its code units, by cases of the escapes. -/
theorem scanUnits_escapeAscii (character : Char) (rest : List Char)
    : scanUnits (escapeAscii character ++ rest)
      = (scanUnits rest).map (fun read => (unitsOf character ++ read.1, read.2)) := by
  unfold escapeAscii
  cases found : escapeDct.lookup character with
  | some letter =>
      obtain ⟨before, after, entries, _⟩ := List.lookup_eq_some_iff.mp found
      have member : (character, letter) ∈ escapeDct := by
        rw [entries]
        exact List.mem_append_right _ List.mem_cons_self
      obtain ⟨known, units⟩ := escapeDct_reads _ member
      rw [units]
      exact scanUnits_backslash known rest
  | none =>
      have absent := List.lookup_eq_none_iff.mp found
      have quote : character ≠ '"' := by
        rintro rfl
        exact absurd (absent ('"', '"') (by decide)) (by decide)
      have backslash_ : character ≠ '\\' := by
        rintro rfl
        exact absurd (absent ('\\', '\\') (by decide)) (by decide)
      dsimp only
      split
      · next printable =>
          have units : unitsOf character = [character.toNat] := by
            simp only [unitsOf]
            rw [if_pos (by omega)]
          rw [units]
          exact scanUnits_plain quote backslash_ (by omega) rest
      · exact scanUnits_unicodeEscapes (unitsOf_small character) rest

/-- No character is a surrogate. -/
theorem not_surrogate (character : Char)
    : isHigh character.toNat = false ∧ isLow character.toNat = false := by
  have valid : character.toNat < 0xd800 ∨ 0xdfff < character.toNat ∧ character.toNat < 0x110000 :=
    character.valid
  simp only [isHigh, isLow, decide_eq_false_iff_not]
  omega

/-- The code units of characters join to the characters, by induction over them. -/
theorem joinUnits_unitsOf (characters : List Char)
    : joinUnits (characters.flatMap unitsOf) = some characters := by
  induction characters with
  | nil => rfl
  | cons character rest ih =>
      have bound := toNat_lt character
      rw [List.flatMap_cons]
      generalize rest.flatMap unitsOf = units at ih ⊢
      unfold unitsOf
      simp only
      split
      · next small =>
          obtain ⟨notHigh, notLow⟩ := not_surrogate character
          cases units with
          | nil =>
              cases ih
              simp [joinUnits, notHigh, notLow, Char.ofNat_toNat]
          | cons next others =>
              simp [joinUnits, notHigh, notLow, ih, Char.ofNat_toNat]
      · next large =>
          have high : isHigh (0xd800 + (character.toNat - 0x10000) / 0x400) = true := by
            simp only [isHigh, decide_eq_true_eq]
            omega
          have low : isLow (0xdc00 + (character.toNat - 0x10000) % 0x400) = true := by
            simp only [isLow, decide_eq_true_eq]
            omega
          have whole
              : 0x10000 + (0xd800 + (character.toNat - 0x10000) / 0x400 - 0xd800) * 0x400
                  + (0xdc00 + (character.toNat - 0x10000) % 0x400 - 0xdc00)
                = character.toNat := by
            omega
          simp only [List.cons_append, List.nil_append, joinUnits, high, low, Bool.and_self,
            if_true, ih, whole, Option.map_some, Char.ofNat_toNat]

/-- The escapes of characters read back as their code units, by induction over them. -/
theorem scanUnits_escapes (characters rest : List Char)
    : scanUnits (characters.flatMap escapeAscii ++ '"' :: rest)
      = some (characters.flatMap unitsOf, rest) := by
  induction characters with
  | nil => rfl
  | cons character others ih =>
      rw [List.flatMap_cons, List.append_assoc, scanUnits_escapeAscii, ih]
      rfl

/-- A string that was written reads back. -/
theorem scanstring_encode (text : String) (rest : List Char)
    : scanstring (text.toList.flatMap escapeAscii ++ '"' :: rest) = some (text, rest) := by
  simp only [scanstring, scanUnits_escapes, bind, Option.bind, joinUnits_unitsOf, pure,
    String.ofList_toList]

-----------------------------------------------------------------------------------------
-- An object reads back
-----------------------------------------------------------------------------------------

/-- The values of a `dict[str, str]`. -/
def strings (entries : List (String × String)) : Dict :=
  entries.map (fun entry => (entry.1, .str entry.2))

/-- A new key joins the entries at their end. -/
theorem setItem_new {entries : Dict} {key : String} (value : Json)
    (new : key ∉ entries.map Prod.fst)
    : setItem entries key value = entries ++ [(key, value)] := by
  have absent : entries.lookup key = none := by
    refine List.lookup_eq_none_iff.mpr fun entry member => ?_
    refine bne_iff_ne.mpr fun same => new ?_
    rw [same]
    exact List.mem_map_of_mem member
  rw [setItem, absent]
  rfl

/-- A member that was written reads back, up to what follows it. -/
theorem jsonObject_member (fuel : Nat) (known : Dict) (key value : String) (rest : List Char)
    : jsonObject (fuel + 2) known
        (encodeBasestringAscii key ++ ':' :: ' ' :: (encodeBasestringAscii value ++ rest))
      = match skip rest with
        | '\x7d' :: rest => some (setItem known key (.str value), rest)
        | ',' :: rest => jsonObject (fuel + 1) (setItem known key (.str value)) (skip rest)
        | _ => none := by
  have colon (rest : List Char) : skip (':' :: rest) = ':' :: rest := rfl
  have blank (rest : List Char) : skip (' ' :: '"' :: rest) = '"' :: rest := rfl
  simp only [encodeBasestringAscii, List.cons_append, List.append_assoc, List.nil_append,
    jsonObject, scanstring_encode, bind, Option.bind, colon, blank, scanOnce, start,
    Option.map_some]

/-- The members of an object that has some start with a quote. -/
theorem dumpsMembers_quote {entries : List (String × String)} (nonempty : entries ≠ [])
    : ∃ text, dumpsMembers entries = '"' :: text := by
  match entries with
  | [] => exact absurd rfl nonempty
  | [_] => exact ⟨_, rfl⟩
  | _ :: _ :: _ => exact ⟨_, rfl⟩

/-- The members of an object that has some read back, by induction over them. -/
theorem jsonObject_dumpsMembers {entries : List (String × String)} (nonempty : entries ≠ [])
    {known : Dict} (distinct : (known.map Prod.fst ++ entries.map Prod.fst).Nodup) {fuel : Nat}
    (enough : entries.length ≤ fuel) (rest : List Char)
    : jsonObject (fuel + 1) known (dumpsMembers entries ++ '\x7d' :: rest)
      = some (known ++ strings entries, rest) := by
  induction entries generalizing known fuel with
  | nil => exact absurd rfl nonempty
  | cons entry others ih =>
      obtain ⟨key, value⟩ := entry
      obtain ⟨fuel, rfl⟩ : ∃ less, fuel = less + 1 :=
        Nat.exists_eq_succ_of_ne_zero (by simp only [List.length_cons] at enough; omega)
      have new : key ∉ known.map Prod.fst := by
        intro old
        exact (List.nodup_append.mp distinct).2.2 key old key List.mem_cons_self rfl
      cases others with
      | nil =>
          have closed : skip ('\x7d' :: rest) = '\x7d' :: rest := rfl
          simp only [dumpsMembers, List.append_assoc, List.cons_append, jsonObject_member, closed,
            setItem_new _ new, strings, List.map_cons, List.map_nil]
      | cons next more =>
          have comma (text : List Char) : skip (',' :: text) = ',' :: text := rfl
          obtain ⟨text, quoted⟩ := dumpsMembers_quote (List.cons_ne_nil next more)
          have blank
              : skip (' ' :: (dumpsMembers (next :: more) ++ '\x7d' :: rest))
                = dumpsMembers (next :: more) ++ '\x7d' :: rest := by
            rw [quoted]
            rfl
          have later := @ih (List.cons_ne_nil next more) (known ++ [(key, .str value)]) (by
            simpa only [List.map_append, List.map_cons, List.map_nil, List.append_assoc,
              List.singleton_append] using distinct) fuel
            (by simp only [List.length_cons] at enough ⊢; omega)
          rw [dumpsMembers]
          simp only [List.append_assoc, List.cons_append, jsonObject_member, comma, blank,
            setItem_new _ new, later, strings, List.map_cons, List.nil_append]

/-- The text of an object is longer than it has members. -/
theorem length_dumpsMembers (entries : List (String × String))
    : entries.length ≤ (dumpsMembers entries).length := by
  induction entries with
  | nil => exact Nat.le_refl 0
  | cons entry others ih =>
      cases others with
      | nil => simp [dumpsMembers, encodeBasestringAscii]
      | cons next more =>
          simp only [dumpsMembers, List.length_append, List.length_cons] at ih ⊢
          omega

/-- A `dict[str, str]` that was written reads back. -/
theorem loads_dumps {entries : List (String × String)} (distinct : (entries.map Prod.fst).Nodup)
    : loads (dumps entries) = some (.dict (strings entries)) := by
  have characters : (dumps entries).toList = '\x7b' :: (dumpsMembers entries ++ ['\x7d']) := by
    simp only [dumps, String.toList_ofList, List.cons_append]
  have opened (text : List Char) : skip ('\x7b' :: text) = '\x7b' :: text := rfl
  have enough := length_dumpsMembers entries
  have fuel
      : fuelOf ('\x7b' :: (dumpsMembers entries ++ ['\x7d']))
        = 2 * (dumpsMembers entries).length + 3 + 2 := by
    simp only [fuelOf, List.length_cons, List.length_append, List.length_nil]
    omega
  unfold loads
  dsimp only
  rw [characters, opened, fuel]
  by_cases nonempty : entries = []
  · subst nonempty
    rfl
  · obtain ⟨text, quoted⟩ := dumpsMembers_quote nonempty
    have begins : skip (dumpsMembers entries ++ ['\x7d']) = dumpsMembers entries ++ ['\x7d'] := by
      rw [quoted]
      rfl
    have members := @jsonObject_dumpsMembers entries nonempty [] distinct
      (2 * (dumpsMembers entries).length + 3) (by omega) []
    have read
        : scanOnce (2 * (dumpsMembers entries).length + 3 + 2)
            ('\x7b' :: (dumpsMembers entries ++ ['\x7d']))
          = some (.dict (strings entries), []) := by
      simp only [scanOnce, start, begins]
      split
      · next other =>
          rw [quoted] at other
          cases other
      · rw [members]
        rfl
    simp only [read]
    rfl

/-- What is written for a character is printable ASCII. -/
theorem escapeAscii_ascii (character : Char)
    : ∀ written ∈ escapeAscii character, 0x20 ≤ written.toNat ∧ written.toNat ≤ 0x7e := by
  intro written member
  unfold escapeAscii at member
  split at member
  · next letter found =>
      obtain ⟨before, after, entries, _⟩ := List.lookup_eq_some_iff.mp found
      have entry : (character, letter) ∈ escapeDct := by
        rw [entries]
        exact List.mem_append_right _ List.mem_cons_self
      have printable : ∀ entry ∈ escapeDct, 0x20 ≤ entry.2.toNat ∧ entry.2.toNat ≤ 0x7e := by
        decide
      rcases List.mem_cons.mp member with rfl | last
      · decide
      · rw [List.mem_singleton.mp last]
        exact printable _ entry
  · split at member
    · next printable =>
        rw [List.mem_singleton.mp member]
        exact printable
    · obtain ⟨unit, _, inside⟩ := List.mem_flatMap.mp member
      have digits : ∀ digit < 16, 0x20 ≤ (Nat.digitChar digit).toNat
          ∧ (Nat.digitChar digit).toNat ≤ 0x7e := by
        decide
      rcases List.mem_cons.mp inside with rfl | rest
      · decide
      · rcases List.mem_cons.mp rest with rfl | last
        · decide
        · obtain ⟨digit, small, rfl⟩ := mem_numeral (by decide) last
          exact digits digit small

theorem encodeBasestringAscii_ascii (text : String)
    : ∀ written ∈ encodeBasestringAscii text, 0x20 ≤ written.toNat ∧ written.toNat ≤ 0x7e := by
  intro written member
  rcases List.mem_cons.mp member with rfl | rest
  · decide
  · rcases List.mem_append.mp rest with inside | last
    · obtain ⟨character, _, escaped⟩ := List.mem_flatMap.mp inside
      exact escapeAscii_ascii character written escaped
    · rw [List.mem_singleton.mp last]
      decide

/-- What is written for members is printable ASCII, by induction over them. -/
theorem dumpsMembers_ascii (entries : List (String × String))
    : ∀ written ∈ dumpsMembers entries, 0x20 ≤ written.toNat ∧ written.toNat ≤ 0x7e := by
  have member_ (key value : String)
      : ∀ written ∈ encodeBasestringAscii key ++ ':' :: ' ' :: encodeBasestringAscii value,
          0x20 ≤ written.toNat ∧ written.toNat ≤ 0x7e := by
    intro written member
    rcases List.mem_append.mp member with inside | rest
    · exact encodeBasestringAscii_ascii key written inside
    · rcases List.mem_cons.mp rest with rfl | rest
      · decide
      · rcases List.mem_cons.mp rest with rfl | inside
        · decide
        · exact encodeBasestringAscii_ascii value written inside
  induction entries with
  | nil => exact fun _ member => nomatch member
  | cons entry others ih =>
      cases others with
      | nil => exact member_ entry.1 entry.2
      | cons next more =>
          intro written member
          rcases List.mem_append.mp member with inside | rest
          · exact member_ entry.1 entry.2 written inside
          · rcases List.mem_cons.mp rest with rfl | rest
            · decide
            · rcases List.mem_cons.mp rest with rfl | later
              · decide
              · exact ih written later

/-- What is written is printable ASCII. -/
theorem dumps_ascii (entries : List (String × String))
    : ∀ written ∈ (dumps entries).toList, 0x20 ≤ written.toNat ∧ written.toNat ≤ 0x7e := by
  intro written member
  simp only [dumps, String.toList_ofList, List.cons_append] at member
  rcases List.mem_cons.mp member with rfl | rest
  · decide
  · rcases List.mem_append.mp rest with inside | last
    · exact dumpsMembers_ascii entries written inside
    · rw [List.mem_singleton.mp last]
      decide

end Turbocat.Python.JsonText
