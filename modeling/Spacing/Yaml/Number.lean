import Spacing.Decimal.Basic
import Spacing.Text.Digit
import Spacing.Text.Lower
import Spacing.Yaml.Fault

/-! Numbers: integers in base two, eight, ten or sixteen, and numbers with a point or an exponent.
In the early version places of sixty may be written with colons between them. Underscores between
digits are for the eye. A text may be written like a number and have no digit, so what is written
like one is told apart from what is one. -/
namespace Spacing.Yaml

def digitValue (c : Char) : Nat :=
  if c.isDigit then c.toNat - 48
  else if c.isAlpha then c.toLower.toNat - 87
  else 36

def numeral (base : Nat) (digits : Text) : Nat :=
  digits.foldl (fun total c => total * base + digitValue c) 0

def isDigitIn (base : Nat) (c : Char) : Bool := digitValue c < base

def splitSign : Text → Bool × Text
  | '-' :: rest => (true, rest)
  | '+' :: rest => (false, rest)
  | text => (false, text)

def signed (negative : Bool) (n : Int) : Int := if negative then -n else n

/-! ## What is written like a number -/

def isSpread (base : Nat) (text : Text) : Bool :=
  !text.isEmpty && text.all fun c => isDigitIn base c || c == '_'

def isWhole (text : Text) : Bool := text.head?.any Char.isDigit && isSpread 10 text

def places : Text → List Text
  | [] => [[]]
  | c :: rest =>
    match places rest with
    | [] => [[c]]
    | first :: others => if c == ':' then [] :: first :: others else (c :: first) :: others

/-- A place of sixty has one digit, or two of which the first is at most a five. -/
def isSixtieth : Text → Bool
  | [c] => c.isDigit
  | [tens, c] => isDigitIn 6 tens && c.isDigit
  | _ => false

def isSexagesimal (text : Text) : Bool :=
  match places text with
  | whole :: sixtieth :: rest => isWhole whole && (sixtieth :: rest).all isSixtieth
  | _ => false

def isInteger (text : Text) : Bool :=
  let unsigned := (splitSign text).2
  (unsigned.length < text.length || unsigned.head?.any Char.isDigit) &&
    match unsigned with
    | '0' :: 'b' :: digits => isSpread 2 digits
    | '0' :: 'o' :: digits => isSpread 8 digits
    | '0' :: 'x' :: digits => isSpread 16 digits
    | digits => isSpread 10 digits

/-- In the early version a number that starts with zero is in base eight. -/
def isEarlyInteger (text : Text) : Bool :=
  let unsigned := (splitSign text).2
  (unsigned.length < text.length || unsigned.head?.any Char.isDigit) &&
    match unsigned with
    | '0' :: 'b' :: digits => isSpread 2 digits
    | '0' :: 'x' :: digits => isSpread 16 digits
    | digits =>
      isSpread 8 digits ||
        digits.head? != some '0' && (isWhole digits || isSexagesimal digits)

def isExponent (signNeeded : Bool) : Text → Bool
  | [] => false
  | mark :: rest =>
    let digits := (splitSign rest).2
    (mark == 'e' || mark == 'E') && (!signNeeded || digits.length < rest.length) &&
      !digits.isEmpty && digits.all Char.isDigit

/-- Digits with a point after or among them or with an exponent, or a point before them. In the last
form an exponent has a sign. -/
def isFraction (text : Text) : Bool :=
  let unsigned := (splitSign text).2
  let isPart (c : Char) : Bool := c.isDigit || c == '_'
  let whole := unsigned.takeWhile isPart
  match unsigned.dropWhile isPart with
  | '.' :: rest =>
    let power := rest.dropWhile isPart
    (power.isEmpty || isExponent whole.isEmpty power) &&
      if whole.isEmpty then power.length < rest.length else whole.head?.any Char.isDigit
  | power => whole.head?.any Char.isDigit && isExponent false power

def isEarlyFraction (text : Text) : Bool :=
  let unsigned := (splitSign text).2
  let whole := unsigned.takeWhile (· != '.')
  let rest := unsigned.dropWhile (· != '.')
  (isFraction text && !(whole.isEmpty && unsigned.length < text.length)) ||
    !rest.isEmpty && isSexagesimal whole && (rest.drop 1).all fun c => c.isDigit || c == '_'

def isNamed (text : Text) : Bool :=
  (splitSign text).2 ∈ [".inf", ".Inf", ".INF"].map String.toList ||
    text ∈ [".nan", ".NaN", ".NAN"].map String.toList

/-! ## What they are -/

def numeric (text : WideText) : Text :=
  let isSpace (c : Char) : Bool := c == ' ' || '\t' ≤ c && c ≤ '\r'
  (((text.map CodePoint.numeric).dropWhile isSpace).reverse.dropWhile isSpace).reverse

def compact (text : WideText) : Except Fault (Bool × WideText) :=
  match text.filter (· != .char '_') with
  | [] => .error .noDigits
  | .char '-' :: rest => .ok (true, rest)
  | .char '+' :: rest => .ok (false, rest)
  | rest => .ok (false, rest)

def widePlaces : WideText → List WideText
  | [] => [[]]
  | p :: rest =>
    match widePlaces rest with
    | [] => [[p]]
    | first :: others => if p == .char ':' then [] :: first :: others else (p :: first) :: others

def baseLetter? : Nat → Option Char
  | 2 => some 'b'
  | 8 => some 'o'
  | 16 => some 'x'
  | _ => none

def withoutBase (base : Nat) : Text → Text
  | '0' :: letter :: digits =>
    if some letter.toLower == baseLetter? base then digits else '0' :: letter :: digits
  | digits => digits

/-- Only decimal digits are limited in number. -/
def integerIn (base : Nat) (text : WideText) : Except Fault Int :=
  let (negative, unsigned) := splitSign (numeric text)
  let written := withoutBase base unsigned
  let digits := written.takeWhile (isDigitIn base)
  if base == 10 && maxDigits < digits.length then .error (.tooLong digits.length)
  else if digits.isEmpty || digits.length < written.length then .error (.notInteger base text)
  else .ok (signed negative (numeral base digits))

def sexagesimal (parts : List Int) : Int := parts.foldl (fun total part => total * 60 + part) 0

def integer (v : Version) (text : WideText) : Except Fault Int := do
  let (negative, unsigned) ← compact text
  signed negative <$>
    match unsigned with
    | .char '0' :: .char 'b' :: digits => integerIn 2 digits
    | .char '0' :: .char 'x' :: digits => integerIn 16 digits
    | .char '0' :: .char 'o' :: digits => integerIn 8 digits
    | digits =>
      if !v.isEarly then integerIn 10 digits
      else if digits.isEmpty then throw .noDigits
      else if digits.head? == some (.char '0') then integerIn 8 digits
      else sexagesimal <$> (widePlaces digits).mapM (integerIn 10)

def decimal? (text : Text) : Option Float :=
  let (negative, unsigned) := splitSign text
  let whole := unsigned.takeWhile Char.isDigit
  let rest := unsigned.dropWhile Char.isDigit
  let fraction := if rest.head? == some '.' then rest.drop 1 else []
  let places := fraction.takeWhile Char.isDigit
  let power := if rest.head? == some '.' then fraction.dropWhile Char.isDigit else rest
  let exponent := splitSign (power.drop 1)
  let sign (x : Float) : Float := if negative then -x else x
  if unsigned ∈ ["inf", "infinity"].map String.toList then some (sign (1 / 0))
  else if unsigned = "nan".toList then some (0 / 0)
  else if (whole ++ places).isEmpty || !(power.isEmpty || isExponent false power) then none
  else
    some (sign (Decimal.toFloat ⟨numeral 10 (whole ++ places),
      signed exponent.1 (numeral 10 exponent.2) - places.length⟩))

def decimal (text : WideText) : Except Fault Float :=
  match decimal? (numeric text) with
  | some x => .ok x
  | none => .error (.notNumber text)

/-- Beyond so many places of sixty the first is worth more than any float. -/
def mostPlaces : Nat := 174

/-- The last place comes first, and each before it is worth sixty times as much. -/
def sexagesimalFloat (parts : List Float) : Except Fault Float :=
  let add (total : Float × Nat) (part : Float) : Float × Nat :=
    (total.1 + part * Float.ofNat total.2, total.2 * 60)
  if mostPlaces < parts.length then .error .manyPlaces
  else .ok (parts.reverse.foldl add (0, 1)).1

/-- What is no number has the `mark` for its origin, unless it was written as such. -/
def fraction (v : Version) (mark : Nat) (text : WideText) : Except Fault Scalar := do
  let (negative, unsigned) ← compact text
  let unsigned := unsigned.lower
  let sign (x : Float) : Scalar :=
    .float (if negative then -x else x) (if x.isNaN then mark else 0)
  if unsigned == Text.wide ".inf".toList then return sign (1 / 0)
  else if unsigned == Text.wide ".nan".toList then return .float (0 / 0) 0
  else if v != .standard && unsigned.contains (.char ':') then
    sign <$> (((widePlaces unsigned).mapM decimal) >>= sexagesimalFloat)
  else if v != .standard && 1 < unsigned.count (.char 'e') then throw .manyExponents
  else sign <$> decimal unsigned

end Spacing.Yaml
