import Numeral.Draft.Patch
import Numeral.Number.Conversion
import Numeral.Overrides.Fields
import Numeral.Pattern.Canonical
import Numeral.Writing.Checked

namespace Numeral

/-- A datum of the wrong kind in the place of an argument. -/
inductive ArgumentError where
  | patternNotText (found : Datum)
  | notStyle (found : Datum)
  | notOverrides (found : Datum)
  | characterNotText (found : Datum)
  | notCharacter (found : Datum)
  | notText (found : Datum)
  | notComparable (found : Datum)
  | notRepeatable (found : Datum)
  | notRadix (found : Datum)
  | twoDefaults

def ArgumentError.message : ArgumentError → String
  | .patternNotText found => "format spec must be str, but got " ++ found.kindLabel
  | .notStyle found => "spec must be FormatSpec, but got " ++ found.kindLabel
  | .notOverrides found => "overrides must be DynamicOverrides or None, but got " ++ found.kindLabel
  | .characterNotText found => "character must be str, but got " ++ found.kindLabel
  | .notCharacter found => "exactly one character expected, but got " ++ found.valueLabel
  | .notText found => "text must be str, but got " ++ found.kindLabel
  | .notComparable found =>
    "'<=' not supported between instances of '" ++ found.qualifiedKind ++ "' and 'int'"
  | .notRepeatable _ => "can't multiply sequence by non-int of type 'float'"
  | .notRadix found =>
    match found.shown with
    | .ok shown => String.ofList shown ++ " is not a valid Format"
    | .error _ => "not a valid Format"
  | .twoDefaults => "Cannot specify both default and default_factory"

/-- Everything that can go wrong. -/
inductive Failure where
  | pattern (e : PatternFailure)
  | draft (e : DraftError)
  | inexpressible (e : Inexpressible)
  | overrides (e : Overrides.Invalid)
  | missing (e : MissingOverride)
  | conversion (e : ConversionError)
  | argument (e : ArgumentError)
  | undefined (e : Undefined)

def Failure.message : Failure → String
  | .pattern e => e.message
  | .draft e => e.message
  | .inexpressible e => e.message
  | .overrides e => e.message
  | .missing e => e.message
  | .conversion e => e.message
  | .argument e => e.message
  | .undefined e => e.message

namespace Datum

/-- Reads a style from a pattern. -/
def parse : Datum → Except Failure Style
  | .str s => (Style.parse s).mapError .pattern
  | d => .error (.argument (.patternNotText d))

def toStyle : Datum → Except ArgumentError Style
  | .style s => .ok s
  | d => .error (.notStyle d)

/-- The supplied values that a datum is; an absent one supplies nothing. -/
def toOverrides : Datum → Except ArgumentError Overrides
  | .none => .ok {}
  | .overrides o => .ok o
  | d => .error (.notOverrides d)

def toRadix (d : Datum) : Except ArgumentError Radix :=
  match d.char?.bind Radix.ofCode? with
  | some r => .ok r
  | Option.none => .error (.notRadix d)

section

variable (encodable : Char → Bool)

/-- What a character costs of the width. -/
def charCost (d : Datum) : Except Failure Nat :=
  match d with
  | .str s =>
    match s.toList with
    | [c] => (charCostChecked encodable c).mapError .undefined
    | _ => .error (.argument (.notCharacter d))
  | _ => .error (.argument (.characterNotText d))

def textCost : Datum → Except Failure Nat
  | .str s => (costChecked encodable s.toList).mapError .undefined
  | d => .error (.argument (.notText d))

/-- A fill run for a deficit of any size. Where nothing is to be filled the fill is not looked
at. -/
def fillRunOf (fill : Datum) (deficit : Int) : Except Failure (List Char) :=
  if deficit ≤ 0 then .ok []
  else
    (fill.charCost encodable).map fun _ => Numeral.fillRun ((fill.char?).getD ' ') deficit.toNat

/-- A fill run for a deficit that should be a number and should be whole. -/
def fillRun (fill deficit : Datum) : Except Failure (List Char) :=
  match deficit, deficit.number? with
  | .bool b, _ => fill.fillRunOf encodable (if b then 1 else 0)
  | _, some (.int n) => fill.fillRunOf encodable n
  | _, some (.float x) =>
    if x.isNegative || x.isZero then .ok []
    else (fill.charCost encodable).bind fun _ => .error (.argument (.notRepeatable deficit))
  | _, Option.none => .error (.argument (.notComparable deficit))

/-- Writes a number that is known only as a datum. Style and supplied values are checked before the
quantities are settled, and the number is looked at after that. Then every operation can be refused
for its operands. -/
def renderChecked (style value overrides : Datum) : Except Failure String := do
  let s ← style.toStyle.mapError .argument
  let o ← overrides.toOverrides.mapError .argument
  let m ← (s.measures o).mapError .missing
  let n ← (value.toNumber false).mapError .conversion
  let text ← (s.writeChecked encodable m n).mapError .undefined
  pure (String.ofList text)

end

/-- Writes a number that is known only as a datum, as if no operation were ever refused. -/
def render (style value overrides : Datum) : Except Failure String := do
  let s ← style.toStyle.mapError .argument
  let o ← overrides.toOverrides.mapError .argument
  let m ← (s.measures o).mapError .missing
  let n ← (value.toNumber false).mapError .conversion
  pure (String.ofList (s.write m n))

end Datum

/-- Writes a number with some more supplied values. One that is absent or unset is not given, so
that it takes nothing away. -/
def Style.renderWith (s : Style) (value overrides : Datum) (supplied : Quantity → Datum) :
    Except Failure String := do
  let o ← overrides.toOverrides.mapError .argument
  let patch : Overrides.Entries
    | .quantity q =>
      match supplied q with
      | .none => .unset
      | d => d
    | .policy => .unset
  let o ← (o.merge patch).mapError .overrides
  Datum.renderChecked Unicode.encodable (.style s) value (.overrides o)

end Numeral
