import Numeral.Digits.Limit
import Numeral.Label
import Numeral.Pattern.Basic

namespace Numeral

/-- Why the reading of a pattern stops before its end. -/
inductive Cause where
  | zeroAfterFill (fill : Char)
  | zeroBeforeWidth
  | zeroWithoutWidth
  | missingPrecision
  | zeroSpacing
  | unknownRadix (c : Char)
  | unknownSeparator (c : Char)
  | trailing (rest : List Char)
  deriving DecidableEq

/-- Says what is wrong and nothing about where. -/
def Cause.reason : Cause → String
  | .zeroAfterFill c =>
    "zero flag conflicts with explicit fill " ++ String.ofList (Label.char c)
  | .zeroBeforeWidth => "width must not start with '0'"
  | .zeroWithoutWidth => "zero flag must be followed by a width"
  | .missingPrecision => "precision digits or '$' expected after '.'"
  | .zeroSpacing => "spacing must be >= 1"
  | .unknownRadix c => "unknown format type " ++ String.ofList (Label.char c)
  | .unknownSeparator c =>
    "unknown separator " ++ String.ofList (Label.char c) ++ ", one of '_, ' expected"
  | .trailing rest => "unexpected trailing input " ++ String.ofList (Quoted.text rest)

/-- The classes into which the causes fall. -/
inductive PatternErrorKind where
  | flagConflict
  | malformedNumber
  | unknownRadix
  | unknownSeparator
  | trailingInput
  deriving DecidableEq

def Cause.kind : Cause → PatternErrorKind
  | .zeroAfterFill _ => .flagConflict
  | .zeroBeforeWidth | .zeroWithoutWidth | .missingPrecision | .zeroSpacing => .malformedNumber
  | .unknownRadix _ => .unknownRadix
  | .unknownSeparator _ => .unknownSeparator
  | .trailing _ => .trailingInput

/-- A text that is no pattern: why, and the number of characters before the place. -/
structure PatternError where
  cause : Cause
  position : Nat
  text : List Char
  deriving DecidableEq

def PatternError.message (e : PatternError) : String :=
  e.cause.reason ++ " at index " ++ String.ofList (decimalText e.position) ++ " of format spec " ++
    String.ofList (Label.text e.text Label.limit)

/-- Why a text is not read as a pattern: it stops being one at some place, or it holds a number of too
many digits. The second has no place. -/
inductive PatternFailure where
  | mismatch (e : PatternError)
  | digits (e : DigitError)
  deriving DecidableEq

def PatternFailure.message : PatternFailure → String
  | .mismatch e => e.message
  | .digits e => e.message

end Numeral
