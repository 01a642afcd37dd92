import RouterBinding.Pattern.Reader
import RouterBinding.Pattern.Support
import RouterBinding.Text.Bytes

/-!
# Log filters

A log filter is a list of directives with commas between. A directive names a level, or a target
with a level, or a span with a field, whose value is a pattern; `LogFilter.check` says whether all
of them are well formed.

Blanks around a directive do not count, but the places of its parts are counted without the blanks
and looked up in the text with them. Blanks in front thus shift every part, and a part whose place
then lies inside of a character cannot be taken at all.
-/

namespace RouterBinding

/-- Why a text is no log filter. -/
inductive FilterError where
  | malformed
  /-- A part would begin or end inside of a character. -/
  | brokenCharacter
  deriving DecidableEq

namespace LogFilter

/-! ## Levels and values -/

/-- The names of the levels. -/
def levelNames : List String := ["error", "warn", "info", "debug", "trace", "off"]

/-- Whether some characters are digits, at least one. -/
def areDigits (cs : List Char) : Bool := !cs.isEmpty && cs.all Char.isDigit

/-- What follows a plus sign, if there is one. -/
def withoutPlus : List Char → List Char
  | '+' :: rest => rest
  | cs => cs

/-- What follows a sign, if there is one. -/
def withoutSign : List Char → List Char
  | '+' :: rest => rest
  | '-' :: rest => rest
  | cs => cs

/-- Whether some characters are a level: a word in any case or a number from 0 to 5. None at all
are the default one. -/
def isLevel (cs : List Char) : Bool :=
  if areDigits (withoutPlus cs) then Nat.ofDigitChars 10 (withoutPlus cs) 0 ≤ 5
  else cs.isEmpty || String.ofList (cs.map Char.toLower) ∈ levelNames

/-- The words that are numbers. -/
def numberNames : List String := ["inf", "infinity", "nan"]

/-- Whether some characters are digits with at most one point among or around them. -/
def isMantissa (cs : List Char) : Bool :=
  let whole := cs.takeWhile Char.isDigit
  match cs.dropWhile Char.isDigit with
  | [] => !whole.isEmpty
  | '.' :: fraction => !(whole ++ fraction).isEmpty && fraction.all Char.isDigit
  | _ => false

/-- Whether some characters are a number in decimal or scientific form, or the name of one. -/
def isNumber (cs : List Char) : Bool :=
  let digits := withoutSign cs
  let isExponentMark := fun c => c = 'e' || c = 'E'
  String.ofList (digits.map Char.toLower) ∈ numberNames ||
    isMantissa (digits.takeWhile fun c => !isExponentMark c) &&
      match digits.dropWhile fun c => !isExponentMark c with
      | [] => true
      | _ :: exponent => areDigits (withoutSign exponent)

/-- Whether some characters are the value of a field: a number or a pattern that is supported. The
words for truth and falsehood are patterns like others. -/
def isValue (cs : List Char) : Bool := isNumber cs || (Pattern.read? cs).any Pattern.isSupported

/-- The parts between separators. -/
def split (separator : Char) (cs : List Char) : List (List Char) :=
  cs.foldr (fun c acc =>
    if c = separator then [] :: acc
    else match acc with
      | part :: rest => (c :: part) :: rest
      | [] => [[c]]) [[]]

/-- Whether some characters are a field: a name with or without a value. What follows another equals
sign is passed over. -/
def isField (cs : List Char) : Bool :=
  !cs.isEmpty &&
    match split '=' cs with
    | _ :: value :: _ => isValue value
    | _ => true

/-! ## Directives -/

/-- Where the reading of a directive is; the parts know the place where they begin. -/
inductive State where
  | start
  | levelOrTarget
  | span (start : Nat)
  | field (start : Nat)
  | fields
  | target
  | level (start : Nat)
  deriving DecidableEq

/-- The part of a directive from one place to another. -/
def part (directive : List Char) (start stop : Nat) : Except FilterError (List Char) :=
  match Text.slice? start stop directive with
  | some cs => .ok cs
  | none => .error .brokenCharacter

/-- Goes on if a part is well formed. -/
def require (holds : Bool) (s : State) : Except FilterError State :=
  if holds then .ok s else .error .malformed

/-- Takes the next character of a directive, at a place. -/
def step (directive : List Char) (place : Nat) : State → Char → Except FilterError State
  | .start, c =>
    if c = '[' then .ok (.span (place + 1))
    else require (c ∈ ['-', ':', '_'] || Text.isAlphanumeric c) .levelOrTarget
  | .levelOrTarget, c =>
    if c = '=' then (part directive 0 place).map fun _ => .level (place + 1)
    else if c = '[' then (part directive 0 place).map fun _ => .span (place + 1)
    else .ok .levelOrTarget
  | .span start, c =>
    if c = ']' then (part directive start place).map fun _ => .target
    else if c = '\x7b' then (part directive start place).map fun _ => .field (place + 1)
    else .ok (.span start)
  | .field start, c =>
    if c = '\x7d' then do require (isField (← part directive start place)) .fields
    else .ok (.field start)
  | .fields, c => require (c = ']') .target
  | .target, c => require (c = '=') (.level (place + 1))
  | .level start, _ => .ok (.level start)

/-- The state after some characters of a directive, the first of which stands at a place. -/
def run (directive : List Char) (place : Nat) (s : State) :
    List Char → Except FilterError State
  | [] => .ok s
  | c :: rest => do run directive (place + c.utf8Size) (← step directive place s c) rest

/-- Checks the last part of a directive. -/
def finish (directive : List Char) : State → Except FilterError Unit
  | .levelOrTarget | .target => .ok ()
  | .level start =>
    match Text.splitBytes? start directive with
    | some (_, cs) => if isLevel cs then .ok () else .error .malformed
    | none => .error .brokenCharacter
  | _ => .error .malformed

/-- Checks a directive. -/
def checkDirective (directive : List Char) : Except FilterError Unit := do
  finish directive (← run directive 0 .start (Text.trimmed directive))

/-- Checks the directives of a text from left to right; one without characters is passed over. -/
def check (text : String) : Except FilterError Unit :=
  ((split ',' text.toList).filter fun directive => !directive.isEmpty).forM checkDirective

end LogFilter

end RouterBinding
