/-
Banck.Parsing — reading amounts of money and interest rates from text
(`FromStr` in `src/domain.rs`).

A result of `none` is a panic: a slice inside a character, an index out of
range, an overflow of a plain product, `unreachable!`. That none of these
happens is a theorem about the parsers, not part of their definition.
-/
import Banck.Domain
import Banck.Lib.Decimal

namespace Banck

open Lib

/-! ## Errors -/

inductive MoneyParseError where
  | empty
  | invalidFormat
  | tooManyDecimalPlaces
  | overflow
  deriving DecidableEq, Repr

def MoneyParseError.display : MoneyParseError → String
  | empty => "money value cannot be empty"
  | invalidFormat => "money value must look like 100 or 100.50"
  | tooManyDecimalPlaces => "money value cannot have more than two decimals"
  | overflow => "money value is too large"

inductive InterestRateParseError where
  | empty
  | negative
  | invalidFormat
  | tooManyDecimalPlaces
  | overflow
  deriving DecidableEq, Repr

def InterestRateParseError.display : InterestRateParseError → String
  | empty => "interest rate cannot be empty"
  | negative => "interest rate cannot be negative"
  | invalidFormat => "interest rate must look like 3 or 3.25"
  | tooManyDecimalPlaces => "interest rate cannot have more than two decimal places"
  | overflow => "interest rate is too large"

/-! ## The part the parsers share -/

def u32Max : Int := 2 ^ 32 - 1

/-- The digits behind the point, as hundredths. One digit is multiplied by a
plain `*`. -/
def parseFraction (least largest : Int) (fractionalPart : String) : Option (Option Int) :=
  match fractionalPart.utf8ByteSize with
  | 0 => some (some 0)
  | 1 =>
      match Decimal.parseInt least largest fractionalPart.toList with
      | none => some none
      | some tenths => (Decimal.checked least largest (tenths * 10)).map some
  | 2 => some (Decimal.parseInt least largest fractionalPart.toList)
  | _ => none

/-- Both parsers from the check of the digits on, for an integer type from
`least` to `largest`. `whole` is what `wholePart` is read as. -/
def parseParts {ε : Type} (least largest : Int) (invalidFormat tooManyDecimalPlaces overflow : ε)
    (wholePart fractionalPart : String) (whole : Option Int) : Option (Except ε Int) :=
  if ¬ wholePart.toList.all Char.isDigit ∨ ¬ fractionalPart.toList.all Char.isDigit then
    some (.error invalidFormat)
  else if 2 < fractionalPart.utf8ByteSize then
    some (.error tooManyDecimalPlaces)
  else
    match whole with
    | none => some (.error overflow)
    | some whole =>
        match parseFraction least largest fractionalPart with
        | none => none
        | some none => some (.error overflow)
        | some (some fractional) =>
            match (Decimal.checked least largest (whole * 100)).bind fun hundredths =>
                Decimal.checked least largest (hundredths + fractional) with
            | none => some (.error overflow)
            | some total => some (.ok total)

/-! ## Money -/

namespace Money

/-- What follows the sign. -/
def parseUnsigned (negative : Bool) (unsigned : String) :
    Option (Except MoneyParseError Money) := do
  if unsigned = "" then
    return .error .invalidFormat
  let parts := Text.split '.' unsigned
  if 2 < parts.length then
    return .error .invalidFormat
  let wholePart ← parts[0]?
  let fractionalPart := parts[1]?.getD ""
  if wholePart = "" ∧ fractionalPart = "" then
    return .error .invalidFormat
  let whole :=
    if wholePart = "" then some 0 else Decimal.parseInt i64Min i64Max wholePart.toList
  match ← parseParts i64Min i64Max .invalidFormat .tooManyDecimalPlaces .overflow wholePart
      fractionalPart whole with
  | .error e => return .error e
  | .ok cents =>
      -- only the negation is checked; without it the cents are an `i64` already
      match ofInt? (if negative then -cents else cents) with
      | some money => return .ok money
      | none => return .error .overflow

def fromStr (input : String) : Option (Except MoneyParseError Money) := do
  let input := Text.trim input
  if input = "" then
    return .error .empty
  let first ← (Text.asBytes input)[0]?
  if first = UInt8.ofNat '-'.toNat then
    parseUnsigned true (← Text.sliceFrom input 1)
  else if first = UInt8.ofNat '+'.toNat then
    parseUnsigned false (← Text.sliceFrom input 1)
  else
    parseUnsigned false input

end Money

/-! ## Interest rates -/

namespace InterestRate

/-- What follows the plus sign. -/
def parseUnsigned (input : String) : Option (Except InterestRateParseError InterestRate) := do
  let parts := Text.split '.' input
  if 2 < parts.length then
    return .error .invalidFormat
  let wholePart ← parts[0]?
  if wholePart = "" then
    return .error .invalidFormat
  let fractionalPart := parts[1]?.getD ""
  match ← parseParts 0 u32Max .invalidFormat .tooManyDecimalPlaces .overflow wholePart
      fractionalPart (Decimal.parseInt 0 u32Max wholePart.toList) with
  | .error e => return .error e
  | .ok basisPoints => return .ok ⟨UInt32.ofNat basisPoints.toNat⟩

def fromStr (input : String) : Option (Except InterestRateParseError InterestRate) :=
  let input := Text.trim input
  if input = "" then
    some (.error .empty)
  else if input.toList.head? = some '-' then
    some (.error .negative)
  else
    parseUnsigned ((Text.stripPrefix "+" input).getD input)

end InterestRate

end Banck
