import Numeral.Datum.Label
import Numeral.Decimal.Text
import Numeral.Number.Basic

namespace Numeral

/-- Why a datum is no number. -/
inductive ConversionError where
  | truthValue (shown : String)
  | index (found : Datum) (reason : String)
  | noFloat (kind : String)
  | digits (text : String)
  | limit (e : DigitError)
  | arithmetic (condition : DecimalCondition)
  | unsupported (found : Datum)
  | fault (fault : Fault)

def ConversionError.message : ConversionError → String
  | .truthValue shown =>
    "boolean values not supported, got " ++ shown ++
      ". Set allow_bool=True to convert booleans to int"
  | .index found reason =>
    "cannot convert " ++ found.kindLabel ++ " to int via __index__: " ++ reason
  | .noFloat kind => "float() argument must be a string or a real number, not '" ++ kind ++ "'"
  | .digits text => "invalid literal for int() with base 10: '" ++ text ++ "'"
  | .limit e => e.message
  | .arithmetic condition => "[<class 'decimal." ++ condition.name ++ "'>]"
  | .unsupported found =>
    "unsupported numeric type: " ++ found.kindLabel ++
      ". Expected int, float, or types implementing __index__, a floating dtype " ++
      "or .item() (e.g., numpy scalars)"
  | .fault e => e.text

/-- The text of a scalar: its own if it has one, else its representation. -/
def Facets.ownText (f : Facets Datum) : Except ConversionError String :=
  (f.text.getD f.shown).mapError .fault

/-- The class of numbers to which a scalar belongs. Something with dimensions is no scalar. -/
def Facets.scalarFamily (f : Facets Datum) : Option String :=
  if f.dimensions = 0 then f.family else none

/-- A datum that is a number, together with that number. -/
structure NumberDatum where
  datum : Datum
  number : Plain
  same : datum.number? = some number

namespace NumberDatum

def int (n : Int) : NumberDatum :=
  ⟨.int n, .int n, rfl⟩

def float (x : Binary64) : NumberDatum :=
  ⟨.float x, .float x, rfl⟩

/-- A truth value as a number, where that is allowed. -/
def ofTruth (allowBool : Bool) (truth : Except Fault Bool) (shown : Except ConversionError String) :
    Except ConversionError NumberDatum :=
  if allowBool then (truth.mapError .fault).map fun b => int (if b then 1 else 0)
  else shown.bind fun text => .error (.truthValue text)

end NumberDatum

namespace Facets

/-- The integer in place of a scalar. Truth values count as integers here. -/
def ofIndex (f : Facets Datum) : Except Fault Datum → Except ConversionError NumberDatum
  | .ok (.bool b) => .ok (.int (if b then 1 else 0))
  | .ok d =>
    match d.int? with
    | some n => .ok (.int n)
    | none =>
      .error (.index (.scalar f) ("__index__ returned non-int (type " ++ d.qualifiedKind ++ ")"))
  | .error fault =>
    match fault.kind with
    | .type | .value => .error (.index (.scalar f) fault.text)
    | _ => .error (.fault fault)

/-- The floating point number in place of a scalar. One that is such a number itself need not know the
question. -/
def toFloat (f : Facets Datum) : Except ConversionError NumberDatum :=
  match f.float, f.number with
  | some outcome, _ => (outcome.mapError .fault).map .float
  | none, some (.float x) => .ok (.float x)
  | none, _ => .error (.noFloat f.kind)

/-- The plain value in place of a scalar, if it is a number. One of a derived kind stays what it
is. -/
def ofItem (f : Facets Datum) (allowBool : Bool) :
    Except Fault Datum → Except ConversionError NumberDatum
  | .ok (.bool b) => NumberDatum.ofTruth allowBool (.ok b) (.ok (if b then "True" else "False"))
  | .ok d =>
    match same : d.number? with
    | some n => .ok ⟨d, n, same⟩
    | none => .error (.unsupported (.scalar f))
  | .error fault =>
    match fault.kind with
    | .other _ => .error (.fault fault)
    | _ => .error (.unsupported (.scalar f))

/-- The number that a scalar stands for. It is asked in this order: whether it is a truth value,
for an integer, whether it is a floating point number, and for a plain value. One that is an integer
itself need not be asked for it. -/
def toStandard (f : Facets Datum) (allowBool : Bool) : Except ConversionError NumberDatum :=
  if f.scalarFamily = some "b" then NumberDatum.ofTruth allowBool f.truth f.ownText
  else
    match f.number, f.index with
    | some (.int n), _ => .ok (.int n)
    | _, some outcome => f.ofIndex outcome
    | some (.float _), none => f.toFloat
    | none, none =>
      if f.scalarFamily = some "f" then f.toFloat
      else
        match f.item with
        | some outcome => f.ofItem allowBool outcome
        | none => .error (.unsupported (.scalar f))

end Facets

namespace Datum

/-- The kinds of values whose members know an integer in their place. They know none for
themselves. -/
def integerTypes : List String :=
  ["int", "bool"]

/-- The number that a datum stands for, as a datum: a plain one, or one of a derived kind that was
found in its place. -/
def toStandard (d : Datum) (allowBool : Bool) : Except ConversionError NumberDatum :=
  match d with
  | .bool b => NumberDatum.ofTruth allowBool (.ok b) (.ok (if b then "True" else "False"))
  | .int n => .ok (.int n)
  | .intLike _ n => .ok (.int n)
  | .float x => .ok (.float x)
  | .floatLike _ x => .ok (.float x)
  | .scalar f => f.toStandard allowBool
  | .type name _ =>
    if name ∈ integerTypes then
      .error (.index d "'type' object cannot be interpreted as an integer")
    else .error (.unsupported d)
  | _ => .error (.unsupported d)

/-- The number that a datum stands for. -/
def toPlain (d : Datum) (allowBool : Bool) : Except ConversionError Plain :=
  (d.toStandard allowBool).map NumberDatum.number

/-- What is kept of the text of a scalar. -/
def scalarLimits : DecimalLimits :=
  .common

/-- The magnitude that a text denotes, once the text is known to be that of a number. The digits
before the point are read as a number of their own. -/
def magnitudeOfText (text : DecimalText) : Except ConversionError Decimal := do
  match ← (text.within scalarLimits).mapError .arithmetic with
  | .finite x =>
    let before := (x.leading + 1).toNat
    if Digits.limit < before then throw (.limit (.tooLong before)) else pure x
  | .infinite => throw (.digits "Infinity")
  | .nan _ negative payload =>
    throw (.digits (String.ofList (DecimalText.nanText negative payload)))

/-- The decimal magnitude of a finite number that a datum stands for. A floating point scalar keeps
the digits of its own text, if that is a number at all. -/
def magnitudeOf (d : Datum) (x : Binary64) : Except ConversionError Decimal :=
  match d with
  | .scalar f =>
    if f.scalarFamily = some "f" then do
      match DecimalText.read? (← f.ownText) with
      | some text => magnitudeOfText text
      | Option.none => pure x.shortest
    else pure x.shortest
  | _ => pure x.shortest

/-- The number to write for a datum. -/
def toNumber (d : Datum) (allowBool : Bool) : Except ConversionError Number := do
  match ← d.toPlain allowBool with
  | .int n => pure (.ofInt n)
  | .float x =>
    if x.isFinite then pure (.ofFloat x (← d.magnitudeOf x)) else pure (.ofFloat x ⟨0, 0⟩)

end Datum

end Numeral
