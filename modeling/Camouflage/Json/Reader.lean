import Camouflage.Decimal.Whole
import Camouflage.Json.Fault

/-!
Reading JSON text from left to right. Every reader takes the text before it and gives what it read
with the text behind that; the first fault ends the reading.
-/

namespace Camouflage.Json

abbrev Result (α : Type) := Except Failure (α × List Char)

def isBlank (c : Char) : Bool := c = ' ' || c = '\n' || c = '\t' || c = '\r'

def skipBlank (text : List Char) : List Char := text.dropWhile isBlank

def readWord : (word : List Char) → List Char → Result Unit
  | [], text => .ok ((), text)
  | _ :: _, [] => Failure.before [] .endInValue
  | c :: word, d :: text =>
    if c = d then readWord word text else Failure.atFirst (d :: text) .expectedWord

def hexDigit? (c : Char) : Option Nat :=
  if c.isDigit then some (c.toNat - '0'.toNat)
  else if 'a' ≤ c ∧ c ≤ 'f' then some (c.toNat - 'a'.toNat + 10)
  else if 'A' ≤ c ∧ c ≤ 'F' then some (c.toNat - 'A'.toNat + 10)
  else none

/-- The four digits are looked for in the next four bytes. -/
def readHex (text : List Char) : Result Nat :=
  let digits := (text.take 4).filterMap hexDigit?
  if digits.length = 4 then .ok (digits.foldl (fun n digit => 16 * n + digit) 0, text.drop 4)
  else if Failure.size text < 4 then Failure.before [] .endInString
  else .error ⟨.badEscape, Failure.size text - 4⟩

def isHighSurrogate (n : Nat) : Bool := 0xd800 ≤ n && n < 0xdc00

def isLowSurrogate (n : Nat) : Bool := 0xdc00 ≤ n && n < 0xe000

def joinSurrogates (high low : Nat) : Char :=
  Char.ofNat (0x10000 + 0x400 * (high - 0xd800) + (low - 0xdc00))

def readLowSurrogate (high : Nat) : List Char → Result Char
  | [] => Failure.before [] .endInString
  | c :: text =>
    if c ≠ '\\' then Failure.atFirst (c :: text) .unfinishedSurrogates
    else
      match text with
      | [] => Failure.before [] .endInString
      | d :: text =>
        if d ≠ 'u' then Failure.atFirst (d :: text) .unfinishedSurrogates
        else
          match readHex text with
          | .error failure => .error failure
          | .ok (low, text) =>
            if isLowSurrogate low then .ok (joinSurrogates high low, text)
            else Failure.before text .loneSurrogate

def escapes : List (Char × Char) := [
  ('"', '"'), ('\\', '\\'), ('/', '/'), ('b', '\x08'), ('f', '\x0c'), ('n', '\n'), ('r', '\r'),
  ('t', '\t')]

def readEscape : List Char → Result Char
  | [] => Failure.before [] .endInString
  | c :: text =>
    match escapes.lookup c with
    | some meant => .ok (meant, text)
    | none =>
      if c ≠ 'u' then Failure.atFirst (c :: text) .badEscape
      else
        match readHex text with
        | .error failure => .error failure
        | .ok (n, text) =>
          if isLowSurrogate n then Failure.before text .loneSurrogate
          else if isHighSurrogate n then readLowSurrogate n text
          else .ok (Char.ofNat n, text)

theorem length_lt_of_readHex {text rest : List Char} {n : Nat} (h : readHex text = .ok (n, rest)) :
    rest.length < text.length := by
  simp only [readHex] at h
  split at h
  · next hd =>
    cases h
    have := List.length_filterMap_le hexDigit? (text.take 4)
    simp only [List.length_take] at this
    simp only [List.length_drop]
    omega
  · split at h <;> cases h

theorem length_lt_of_readLowSurrogate {high : Nat} {text rest : List Char} {c : Char}
    (h : readLowSurrogate high text = .ok (c, rest)) : rest.length < text.length := by
  unfold readLowSurrogate at h
  split at h
  · cases h
  · split at h
    · cases h
    · split at h
      · cases h
      · split at h
        · cases h
        · split at h
          · cases h
          · next hr =>
            split at h
            · simp only [Except.ok.injEq, Prod.mk.injEq] at h
              have := length_lt_of_readHex hr
              rw [← h.2]
              simp only [List.length_cons]
              omega
            · cases h

theorem length_lt_of_readEscape {text rest : List Char} {c : Char}
    (h : readEscape text = .ok (c, rest)) : rest.length < text.length := by
  unfold readEscape at h
  split at h
  · cases h
  · split at h
    · cases h
      simp
    · split at h
      · cases h
      · split at h
        · cases h
        · next hr =>
          have := length_lt_of_readHex hr
          simp only [List.length_cons]
          split at h
          · cases h
          · split at h
            · have := length_lt_of_readLowSurrogate h
              omega
            · cases h
              omega

def readString (text : List Char) : Result (List Char) :=
  match text with
  | [] => Failure.before [] .endInString
  | '"' :: text => .ok ([], text)
  | '\\' :: text =>
    match _h : readEscape text with
    | .error failure => .error failure
    | .ok (c, text) =>
      match readString text with
      | .error failure => .error failure
      | .ok (value, text) => .ok (c :: value, text)
  | c :: text =>
    if c < ' ' then Failure.before text .controlCharacter
    else
      match readString text with
      | .error failure => .error failure
      | .ok (value, text) => .ok (c :: value, text)
termination_by text.length
decreasing_by
  · have := length_lt_of_readEscape _h
    simp only [List.length_cons]
    omega
  · simp

def takeDigits : (significand : Nat) → List Char → Nat × Nat × List Char
  | significand, [] => (significand, 0, [])
  | significand, c :: text =>
    match Decimal.digit? c with
    | none => (significand, 0, c :: text)
    | some digit =>
      if Number.wholeBound ≤ 10 * significand + digit then (significand, 0, c :: text)
      else
        let (significand, count, text) := takeDigits (10 * significand + digit) text
        (significand, count + 1, text)

def startsWithDigit (text : List Char) : Bool := text.head?.any fun c => (Decimal.digit? c).isSome

def skipDigits (text : List Char) : List Char :=
  text.dropWhile fun c => (Decimal.digit? c).isSome

section

variable (isNegative : Bool)

def finishNumber (significand : Nat) (exponent : Int) (text : List Char) : Result Number :=
  match Number.ofScientific? isNegative significand exponent with
  | some number => .ok (number, text)
  | none => Failure.before text .numberTooLarge

/-- With a greater exponent, a value is zero or too large. -/
def maxExponent : Nat := 2147483647

def readExponentDigits (significand : Nat) (exponent : Int) (isNegativeExponent : Bool) :
    (value : Nat) → List Char → Result Number
  | value, [] => finish value []
  | value, c :: text =>
    match Decimal.digit? c with
    | none => finish value (c :: text)
    | some digit =>
      if maxExponent < 10 * value + digit then
        if significand ≠ 0 ∧ !isNegativeExponent then Failure.before text .numberTooLarge
        else .ok (.float isNegative .zero, skipDigits text)
      else readExponentDigits significand exponent isNegativeExponent (10 * value + digit) text
where
  finish (value : Nat) (text : List Char) : Result Number :=
    finishNumber isNegative significand
      (if isNegativeExponent then exponent - value else exponent + value) text

def readExponent (significand : Nat) (exponent : Int) (text : List Char) : Result Number :=
  let (isNegativeExponent, text) :=
    match text with
    | '+' :: text => (false, text)
    | '-' :: text => (true, text)
    | _ => (false, text)
  match text with
  | [] => Failure.before [] .endInValue
  | c :: text =>
    match Decimal.digit? c with
    | none => Failure.atFirst (c :: text) .badNumber
    | some digit => readExponentDigits isNegative significand exponent isNegativeExponent digit text

def readAfterFraction (significand : Nat) (exponent : Int) : List Char → Result Number
  | 'e' :: text | 'E' :: text => readExponent isNegative significand exponent text
  | text => finishNumber isNegative significand exponent text

/-- Digits that no longer fit in the significand are dropped. -/
def readFraction (significand : Nat) (exponent : Int) (text : List Char) : Result Number :=
  let (significand, count, rest) := takeDigits significand text
  if startsWithDigit rest then
    readAfterFraction isNegative significand (exponent - count) (skipDigits rest)
  else if count = 0 then
    match rest with
    | [] => Failure.before [] .endInValue
    | _ :: _ => Failure.atFirst rest .badNumber
  else readAfterFraction isNegative significand (exponent - count) rest

/-- Goes on behind the digits of an integer, of which `dropped` ones did not fit. -/
def readAfterInteger (significand dropped : Nat) : List Char → Result Number
  | '.' :: text => readFraction isNegative significand dropped text
  | 'e' :: text | 'E' :: text => readExponent isNegative significand dropped text
  | text =>
    if dropped = 0 then .ok (.ofInteger isNegative significand, text)
    else finishNumber isNegative significand dropped text

def readNumber : List Char → Result Number
  | [] => Failure.before [] .endInValue
  | '0' :: text =>
    if startsWithDigit text then Failure.atFirst text .badNumber
    else readAfterInteger isNegative 0 0 text
  | c :: text =>
    match Decimal.digit? c with
    | none => Failure.atFirst (c :: text) .badNumber
    | some digit =>
      let (significand, _, rest) := takeDigits digit text
      let behind := skipDigits rest
      readAfterInteger isNegative significand (rest.length - behind.length) behind

end

/-- The failure to find what is wanted: the value that stands there, read as far as it takes to
describe it. -/
def unwanted {α : Type} (wanted : String) (text : List Char) : Except Failure α :=
  match text with
  | 'n' :: text => (readWord "ull".toList text).bind fun (_, rest) => wrong .null rest
  | 't' :: text => (readWord "rue".toList text).bind fun (_, rest) => wrong (.boolean true) rest
  | 'f' :: text => (readWord "alse".toList text).bind fun (_, rest) => wrong (.boolean false) rest
  | '-' :: text => (readNumber true text).bind fun (number, rest) => wrong (.number number) rest
  | '"' :: text => (readString text).bind fun (value, rest) => wrong (.string value) rest
  | '[' :: _ => wrong .sequence text
  | '{' :: _ => wrong .map text
  | c :: _ =>
    if c.isDigit then (readNumber false text).bind fun (number, rest) => wrong (.number number) rest
    else Failure.atFirst text .expectedValue
  | [] => Failure.atFirst text .endInValue
where
  wrong (found : Found) (rest : List Char) : Except Failure α :=
    Failure.before rest (.wrongType found wanted)

def readText (text : List Char) : Result (List Char) :=
  match skipBlank text with
  | '"' :: text => readString text
  | text => unwanted "a string" text

def readBoolean (text : List Char) : Result Bool :=
  match skipBlank text with
  | 't' :: text => (readWord "rue".toList text).map fun (_, rest) => (true, rest)
  | 'f' :: text => (readWord "alse".toList text).map fun (_, rest) => (false, rest)
  | text => unwanted "a boolean" text

def readWhole (text : List Char) : Result UInt64 :=
  match skipBlank text with
  | '-' :: text => (readNumber true text).bind accept
  | c :: text =>
    if c.isDigit then (readNumber false (c :: text)).bind accept else unwanted wanted (c :: text)
  | [] => unwanted wanted []
where
  wanted : String := "u64"
  accept : Number × List Char → Result UInt64
    | (.whole n, rest) => .ok (UInt64.ofNat n, rest)
    | (.negative n, rest) => Failure.before rest (.negative n wanted)
    | (number, rest) => Failure.before rest (.wrongType (.number number) wanted)

end Camouflage.Json
