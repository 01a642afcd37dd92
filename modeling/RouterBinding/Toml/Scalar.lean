import RouterBinding.Decimal.Double
import RouterBinding.Text.Hexadecimal
import RouterBinding.Toml.Value

/-!
# Numbers and moments of TOML

Integers have 64 bits with a sign. A float may not exceed the largest finite number, and a moment
must exist in the calendar. The functions take the characters still to be read and return what is
left of them.
-/

namespace RouterBinding.Toml

/-- The digits of a class in front, among which single underscores may stand. -/
def moreDigits (isDigit : Char → Bool) : List Char → List Char × List Char
  | '_' :: c :: rest =>
    if isDigit c then
      let (digits, rest) := moreDigits isDigit rest
      (c :: digits, rest)
    else ([], '_' :: c :: rest)
  | c :: rest =>
    if isDigit c then
      let (digits, rest) := moreDigits isDigit rest
      (c :: digits, rest)
    else ([], c :: rest)
  | [] => ([], [])

/-- At least one digit of a class. -/
def someDigits? (isDigit : Char → Bool) : List Char → Option (List Char × List Char)
  | c :: rest =>
    if isDigit c then
      let (digits, rest) := moreDigits isDigit rest
      some (c :: digits, rest)
    else none
  | [] => none

/-- The sign in front: whether it is a minus, and what follows it. -/
def sign : List Char → Bool × List Char
  | '-' :: rest => (true, rest)
  | '+' :: rest => (false, rest)
  | cs => (false, cs)

/-- The digits of a decimal integer: a zero stands alone. -/
def whole? : List Char → Option (List Char × List Char)
  | '0' :: rest => some (['0'], rest)
  | cs => someDigits? Char.isDigit cs

/-- An integer, if it has 64 bits. -/
def bounded? (n : Int) : Option Value :=
  if Int64.minValue.toInt ≤ n ∧ n ≤ Int64.maxValue.toInt then some (.integer n) else none

/-- An integer to a base that its letters name. -/
def based? (digits : Option (List Char × List Char)) (base : Nat) :
    Option (Value × List Char) := do
  let (digits, rest) ← digits
  let n := digits.foldl (fun n c => n * base + (hexValue? c).getD 0) 0
  some (← bounded? n, rest)

def isHexDigit (c : Char) : Bool := (hexValue? c).isSome

def isOctalDigit (c : Char) : Bool := '0' ≤ c && c ≤ '7'

def isBinaryDigit (c : Char) : Bool := c = '0' || c = '1'

def decimal? (cs : List Char) : Option (Value × List Char) := do
  let (negative, rest) := sign cs
  let (digits, rest) ← whole? rest
  let n : Int := Nat.ofDigitChars 10 digits 0
  some (← bounded? (if negative then -n else n), rest)

def integer? : List Char → Option (Value × List Char)
  | '0' :: 'x' :: rest => based? (someDigits? isHexDigit rest) 16
  | '0' :: 'o' :: rest => based? (someDigits? isOctalDigit rest) 8
  | '0' :: 'b' :: rest => based? (someDigits? isBinaryDigit rest) 2
  | cs => decimal? cs

/-- Whether `m * 10 ^ e` rounds to a number beyond the largest finite one. Where the number of its
digits before the point tells, no power is taken. -/
def overflows (m : Nat) (e : Int) : Bool :=
  let place : Int := (Nat.toDigits 10 m).length + e
  if m = 0 || place < 300 then false
  else if 310 < place then true
  else if 0 ≤ e then (Double.round? (m * Nat.pow 10 e.toNat) 1).isNone
  else (Double.round? m (Nat.pow 10 (-e).toNat)).isNone

/-- The digits after a point, if there is a point. -/
def fraction? : List Char → Option (List Char × List Char)
  | '.' :: rest => someDigits? Char.isDigit rest
  | cs => some ([], cs)

/-- The exponent, if there is one. -/
def exponent? : List Char → Option (Option Int × List Char)
  | c :: rest =>
    if c = 'e' ∨ c = 'E' then do
      let (negative, rest) := sign rest
      let (digits, rest) ← someDigits? Char.isDigit rest
      let n : Int := Nat.ofDigitChars 10 digits 0
      some (some (if negative then -n else n), rest)
    else some (none, c :: rest)
  | [] => some (none, [])

/-- The characters that were read from the front of a text. -/
def taken (cs rest : List Char) : String := String.ofList (cs.take (cs.length - rest.length))

/-- A number with a fraction or an exponent. -/
def finite? (cs : List Char) : Option (Value × List Char) := do
  let (negative, rest) := sign cs
  let (whole, rest) ← whole? rest
  let (fraction, rest) ← fraction? rest
  let (exponent, rest) ← exponent? rest
  guard (fraction ≠ [] ∨ exponent.isSome)
  let m := Nat.ofDigitChars 10 (whole ++ fraction) 0
  guard (negative || !overflows m (exponent.getD 0 - fraction.length))
  some (.float (taken cs rest), rest)

/-- An infinity, or what is no number. -/
def special? (cs : List Char) : Option (Value × List Char) :=
  match (sign cs).2 with
  | 'i' :: 'n' :: 'f' :: rest => some (.float (taken cs rest), rest)
  | 'n' :: 'a' :: 'n' :: rest => some (.float (taken cs rest), rest)
  | _ => none

/-- A number of exactly two digits. -/
def twoDigits? : List Char → Option (Nat × List Char)
  | a :: b :: rest =>
    if a.isDigit && b.isDigit then some (Nat.ofDigitChars 10 [a, b] 0, rest) else none
  | _ => none

/-- What follows a character that must be there. -/
def after? (c : Char) : List Char → Option (List Char)
  | a :: rest => if a = c then some rest else none
  | [] => none

def isLeapYear (year : Nat) : Bool := year % 4 = 0 && (year % 100 ≠ 0 || year % 400 = 0)

def daysInMonth (year month : Nat) : Nat :=
  if month = 2 then if isLeapYear year then 29 else 28
  else if month = 4 ∨ month = 6 ∨ month = 9 ∨ month = 11 then 30
  else 31

/-- What follows a date. -/
def date? (cs : List Char) : Option (List Char) := do
  let (century, rest) ← twoDigits? cs
  let (year, rest) ← twoDigits? rest
  let year := century * 100 + year
  let (month, rest) ← twoDigits? (← after? '-' rest)
  let (day, rest) ← twoDigits? (← after? '-' rest)
  guard (1 ≤ month ∧ month ≤ 12 ∧ 1 ≤ day ∧ day ≤ daysInMonth year month)
  some rest

/-- What follows the fraction of a second. -/
def secondFraction? : List Char → Option (List Char)
  | '.' :: rest =>
    if rest.takeWhile Char.isDigit = [] then none else some (rest.dropWhile Char.isDigit)
  | cs => some cs

/-- What follows a time; a minute may have a leap second. -/
def time? (cs : List Char) : Option (List Char) := do
  let (hour, rest) ← twoDigits? cs
  let (minute, rest) ← twoDigits? (← after? ':' rest)
  let (second, rest) ← twoDigits? (← after? ':' rest)
  guard (hour ≤ 23 ∧ minute ≤ 59 ∧ second ≤ 60)
  secondFraction? rest

/-- What follows the offset of a time from universal time, if there is one. -/
def offset? : List Char → Option (List Char)
  | c :: rest =>
    if c = 'Z' ∨ c = 'z' then some rest
    else if c = '+' ∨ c = '-' then do
      let (hour, rest) ← twoDigits? rest
      let (minute, rest) ← twoDigits? (← after? ':' rest)
      guard (hour ≤ 23 ∧ minute ≤ 59)
      some rest
    else some (c :: rest)
  | [] => some []

/-- What follows a time and its offset after a date. A blank that no time follows ends the date. -/
def timeOfDay? : List Char → Option (List Char)
  | c :: rest =>
    if c = 'T' ∨ c = 't' ∨ c = ' ' then
      match time? rest with
      | some rest => offset? rest
      | none => some (c :: rest)
    else some (c :: rest)
  | [] => some []

/-- A date, a time, or both. -/
def moment? (cs : List Char) : Option (Value × List Char) := do
  let rest ← match date? cs with
    | some rest => timeOfDay? rest
    | none => time? cs
  some (.moment (taken cs rest), rest)

/-- A moment or a number. -/
def scalar? (cs : List Char) : Option (Value × List Char) :=
  (moment? cs).orElse fun _ =>
    (finite? cs).orElse fun _ => (special? cs).orElse fun _ => integer? cs

end RouterBinding.Toml
