import Numeral.Label
import Numeral.Writing

namespace Numeral

/-- Why an operation has no outcome for its operands. -/
inductive Undefined where
  | zeroDivisor
  | unknownRadix (code : Char)
  | digits (e : DigitError)
  | rounding (e : RoundingError)
  | unencodable (c : Char)
  deriving DecidableEq

def Undefined.message : Undefined → String
  | .zeroDivisor => "integer division or modulo by zero"
  | .unknownRadix code => String.ofList (Quoted.text [code]) ++ " is not a valid Format"
  | .digits e => e.message
  | .rounding e => e.message
  | .unencodable c =>
    "'utf-8' codec can't encode character '" ++
      String.ofList (Quoted.backslash :: 'u' :: Quoted.hex 4 c.toNat) ++
      "' in position 0: surrogates not allowed"

/-- Quotient and remainder, refused for the divisor zero. -/
def divide (n d : Nat) : Except Undefined (Nat × Nat) :=
  if d = 0 then .error .zeroDivisor else .ok (n / d, n % d)

/-- What a character costs, as far as it has a form in UTF-8. A text may hold characters without one,
such as one half of a surrogate pair; which ones these are is left open. -/
def charCostChecked (encodable : Char → Bool) (c : Char) : Except Undefined Nat :=
  if encodable c then .ok c.utf8Size else .error (.unencodable c)

def costChecked (encodable : Char → Bool) : List Char → Except Undefined Nat
  | [] => .ok 0
  | c :: cs => do
    let first ← charCostChecked encodable c
    let others ← costChecked encodable cs
    pure (first + others)

/-- A fill run by a division that can be refused. What the fill costs is asked only where there is
something to fill. -/
def fillRunChecked (encodable : Char → Bool) (fill : Char) (deficit : Nat) :
    Except Undefined (List Char) :=
  if deficit = 0 then .ok []
  else do
    let size ← charCostChecked encodable fill
    let (copies, _) ← divide deficit size
    pure (List.replicate copies fill)

/-- Groups by divisions that can be refused: one for the length of the first group, one for the
number of the others. -/
def groupChecked (mark : Char) (size : Nat) (ds : List Char) : Except Undefined (List Char) := do
  let (_, part) ← divide ds.length size
  let head := if part = 0 then size else part
  let (count, _) ← divide (ds.length - head) size
  pure ([mark].intercalate
    (ds.take head :: (List.range' head count size).map fun i => (ds.drop i).take size))

/-- The text of a number in a base. In base ten alone the number of digits is limited. -/
def Radix.textChecked (r : Radix) (n : Nat) : Except DigitError (List Char) :=
  if r = .decimal then (Digits.written Digits.limit n).map (List.map (digitChar r.ten))
  else .ok (r.text n)

/-- The magnitude to write, rounded by decimal arithmetic that can refuse. -/
def Number.magnitudeChecked (n : Number) (precision : Option Nat) : Except Undefined FixedPoint :=
  match precision with
  | some p => ((n.quantized p).mapError .rounding).map Number.magnitude
  | none => .ok n.magnitude

namespace Style

/-- The integral digits by operations that can be refused. The radix is looked up by its code. -/
def integralChecked (s : Style) (size whole : Nat) : Except Undefined (List Char) :=
  match Radix.ofCode? s.radix.code with
  | none => .error (.unknownRadix s.radix.code)
  | some radix => do
    let digits ← (radix.textChecked whole).mapError .digits
    match s.separator.mark? with
    | some mark => groupChecked mark size digits
    | none => .ok digits

/-- The parts of a number by operations that can be refused. -/
def piecesChecked (s : Style) (m : Measures) (n : Number) : Except Undefined Pieces :=
  let sign := s.sign.text n.negative
  match n.special with
  | some special => .ok { lead := sign, integral := special.text.toList }
  | none => do
    let x ← n.magnitudeChecked m.precision
    let integral ← s.integralChecked m.spacing.size x.whole
    pure {
      lead := sign ++ s.marker
      integral
      tail := if x.places = 0 then [] else s.point :: x.fraction.chars }

end Style

namespace Margin

/-- Puts the parts of a number and a fill run together. -/
def assemble (m : Margin) (run : List Char) (p : Pieces) : List Char :=
  match m with
  | .plain align => align.place run (p.lead ++ (p.integral ++ p.tail))
  | .filled _ align => p.lead ++ align.place run (p.integral ++ p.tail)
  | .zeros _ => p.lead ++ run ++ (p.integral ++ p.tail)

end Margin

/-- Writes a number by operations that can be refused. -/
def Style.writeChecked (encodable : Char → Bool) (s : Style) (m : Measures) (n : Number) :
    Except Undefined (List Char) := do
  let p ← s.piecesChecked m n
  let counted ← costChecked encodable (s.margin.countedText p)
  let run ← fillRunChecked encodable s.margin.fill (m.width - counted)
  pure (s.margin.assemble run p)

end Numeral
