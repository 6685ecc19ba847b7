import ApiGateway.Toml.Basic

/-! # TOML numbers and dates

Numbers, dates and times are written without blanks, except that a blank may stand between a date
and a time. Each reader takes the whole of a word.
-/

namespace ApiGateway.Toml

/-- The digits of a word in which single underscores may stand between digits. -/
def digits? (base : Nat) (word : Text) : Option Text :=
  let groups := word.split '_'
  if groups.all fun g => g ≠ [] ∧ g.all fun c => (Text.digitValue? base c).isSome then
    some groups.flatten
  else none

/-- Cuts off a sign; without one the number is not negative. -/
def cutSign : Text → Bool × Text
  | '-' :: rest => (true, rest)
  | '+' :: rest => (false, rest)
  | rest => (false, rest)

/-- Decimal digits without a needless zero in front. -/
def decimal? (word : Text) : Option Text := do
  let digits ← digits? 10 word
  if word.head? = some '0' ∧ word ≠ ['0'] then none else some digits

def signed (negative : Bool) (n : Nat) : Int := if negative then -n else n

/-- An integer of 64 bits. -/
def inRange? (n : Int) : Option Int :=
  let bound : Int := Nat.pow 2 63
  if -bound ≤ n ∧ n < bound then some n else none

def integer? (word : Text) : Option Int := do
  let radix (base : Nat) (rest : Text) : Option Int := do
    let n ← Text.numeral? base (← digits? base rest)
    inRange? n
  match word with
  | '0' :: 'x' :: rest => radix 16 rest
  | '0' :: 'o' :: rest => radix 8 rest
  | '0' :: 'b' :: rest => radix 2 rest
  | _ =>
    let (negative, rest) := cutSign word
    inRange? (signed negative (← Text.numeral? 10 (← decimal? rest)))

/-- Decimals with a leading digit beyond this place are infinite, or zero. -/
def farPlace : Int := 400

/-- The double nearest to `digits * 10 ^ exponent`. Only a negative number may be too large for
one. -/
def realOf? (negative : Bool) (digits : Text) (exponent : Int) : Option TomlReal := do
  let m ← Text.numeral? 10 digits
  let place : Int := (Nat.toDigits 10 m).length + exponent
  let value :=
    if m = 0 ∨ place < -farPlace then some Binary64.zero
    else if farPlace < place then none
    else if 0 ≤ exponent then Binary64.ofNat? (m * Nat.pow 10 exponent.toNat)
    else Binary64.ofFraction? m (Nat.pow 10 (-exponent).toNat)
  match value with
  | some x => some (.finite (if negative then x.neg else x))
  | none => if negative then some (.infinite true) else none

def exponent? (word : Text) : Option Int := do
  let (negative, rest) := cutSign word
  some (signed negative (← Text.numeral? 10 (← digits? 10 rest)))

def cutExponent (word : Text) : Text × Option Text :=
  let isLetter (c : Char) : Bool := c = 'e' || c = 'E'
  match word.dropWhile (!isLetter ·) with
  | _ :: rest => (word.takeWhile (!isLetter ·), some rest)
  | [] => (word, none)

/-- A number with a point or an exponent, or one of the words for infinity and for no number. -/
def real? (word : Text) : Option TomlReal := do
  let (negative, rest) := cutSign word
  if rest = ("inf" : Text) then some (.infinite negative)
  else if rest = ("nan" : Text) then some .nan
  else
    let (mantissa, exponent) := cutExponent rest
    let power ← (exponent.map exponent?).getD (some 0)
    match Text.cutFirst '.' mantissa with
    | some (whole, fraction) =>
      let fraction ← digits? 10 fraction
      realOf? negative ((← decimal? whole) ++ fraction) (power - fraction.length)
    | none => if exponent.isNone then none else realOf? negative (← decimal? mantissa) power

def fixed? (count least most : Nat) (word : Text) : Option Nat := do
  if word.length = count then
    let n ← Text.numeral? 10 word
    if least ≤ n ∧ n ≤ most then some n else none
  else none

def daysOf (year month : Nat) : Nat :=
  let leap := year % 4 == 0 && (year % 100 != 0 || year % 400 == 0)
  if month = 2 then (if leap then 29 else 28)
  else if [4, 6, 9, 11].contains month then 30 else 31

/-- A date such as `1979-05-27`. -/
def isDate (word : Text) : Bool :=
  match word.split '-' with
  | [year, month, day] =>
    match fixed? 4 0 9999 year, fixed? 2 1 12 month with
    | some y, some m => (fixed? 2 1 (daysOf y m) day).isSome
    | _, _ => false
  | _ => false

/-- Seconds, which may have a fraction. -/
def isSecond (word : Text) : Bool :=
  match Text.cutFirst '.' word with
  | some (whole, fraction) =>
    (fixed? 2 0 60 whole).isSome && fraction != [] && fraction.all Char.isDigit
  | none => (fixed? 2 0 60 word).isSome

/-- A time of day such as `07:32:00.5`. -/
def isTime (word : Text) : Bool :=
  match word.split ':' with
  | [hour, minute, second] =>
    (fixed? 2 0 23 hour).isSome && (fixed? 2 0 59 minute).isSome && isSecond second
  | _ => false

/-- A distance from universal time such as `07:00`. -/
def isOffset (word : Text) : Bool :=
  match word.split ':' with
  | [hour, minute] => (fixed? 2 0 23 hour).isSome && (fixed? 2 0 59 minute).isSome
  | _ => false

/-- A time of day, which may tell its distance from universal time. -/
def isZonedTime (word : Text) : Bool :=
  isTime word ||
    (match word.getLast? with
    | some c => (c = 'Z' || c = 'z') && isTime word.dropLast
    | none => false) ||
    ['+', '-'].any fun sign =>
      match Text.cutFirst sign word with
      | some (time, offset) => isTime time && isOffset offset
      | none => false

/-- A date, a time, or both with a letter between them. -/
def isDatetime (word : Text) : Bool :=
  isDate word || isTime word ||
    (isDate (word.take 10) &&
      match word.drop 10 with
      | c :: time => (c = 'T' || c = 't') && isZonedTime time
      | [] => false)

def scalar? (word : Text) : Option Toml :=
  if isDatetime word then some .datetime
  else match real? word with
  | some x => some (.real x)
  | none => (integer? word).map .integer

end ApiGateway.Toml
