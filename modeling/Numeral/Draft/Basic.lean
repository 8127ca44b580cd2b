import Numeral.Datum.Label

namespace Numeral

/-- The fields in which a style is stated. -/
inductive Field where
  | fill
  | align
  | sign
  | alternate
  | mode
  | width
  | precision
  | radix
  | separator
  | spacing
  | point
  deriving DecidableEq

namespace Field

def all : List Field :=
  [.fill, .align, .sign, .alternate, .mode, .width, .precision, .radix, .separator, .spacing,
    .point]

def name : Field → String
  | .fill => "fill"
  | .align => "align"
  | .sign => "sign"
  | .alternate => "alternate"
  | .mode => "pad_mode"
  | .width => "width"
  | .precision => "precision"
  | .radix => "format"
  | .separator => "separator"
  | .spacing => "spacing"
  | .point => "decimal_separator"

def ofName? (name : String) : Option Field :=
  all.find? (·.name = name)

/-- What a field holds. -/
def expected : Field → String
  | .fill | .separator | .point => "str"
  | .align => "Align or str"
  | .sign => "Sign or str"
  | .alternate => "bool"
  | .mode => "PadMode or str"
  | .width | .precision => "int, UNSET or DYNAMIC"
  | .radix => "Format or str"
  | .spacing => "int"

end Field

namespace PadMode

def all : List PadMode :=
  [.plain, .filled, .zeros]

def text : PadMode → String
  | .plain => "default"
  | .filled => "explicit"
  | .zeros => "zero"

end PadMode

/-- The fields of a style as data, any of which may be wrong. -/
abbrev Draft := Field → Datum

/-- Why a draft is no style. -/
inductive DraftError where
  | wrongKind (field : Field) (found : Datum)
  | notAmong (field : Field) (texts : List String) (found : Datum)
  | notSingle (field : Field) (found : Datum)
  | negative (field : Field) (found : Datum)
  | spacingBelowOne (found : Datum)
  | fillWithoutMode (fill : Char)
  | zerosWithFill (fill : Char)
  | zerosWithAlign (align : Align)

def DraftError.message : DraftError → String
  | .wrongKind field found =>
    field.name ++ " must be " ++ field.expected ++ ", but got " ++ found.kindLabel
  | .notAmong field texts found =>
    field.name ++ " expected one of " ++
      ", ".intercalate (texts.map fun text => String.ofList (Quoted.text text.toList)) ++
      ", but found " ++ found.valueLabel
  | .notSingle field found =>
    field.name ++ " must be a single character, but got " ++ found.valueLabel
  | .negative field found => field.name ++ " must be int >= 0, but got " ++ found.valueLabel
  | .spacingBelowOne found => "spacing must be >= 1, but got " ++ found.valueLabel
  | .fillWithoutMode c =>
    "fill " ++ String.ofList (Label.char c) ++ " requires pad_mode 'explicit', but got " ++
      (Datum.str PadMode.plain.text).valueLabel
  | .zerosWithFill c =>
    "zero flag requires fill '0', but got fill " ++ String.ofList (Label.char c)
  | .zerosWithAlign a =>
    "zero flag requires right or decimal alignment, but got " ++ (Datum.char a.char).valueLabel

/-- The kind of failure that an error of a draft is. -/
def DraftError.kind : DraftError → FaultKind
  | .wrongKind .. => .type
  | .notAmong .. | .notSingle .. | .negative .. | .spacingBelowOne _ => .value
  | .fillWithoutMode _ | .zerosWithFill _ | .zerosWithAlign _ => .value

/-- Puts a margin together from its three fields. -/
def Margin.ofParts (mode : PadMode) (fill : Char) (align : Align) : Except DraftError Margin :=
  match mode with
  | .plain => if fill = ' ' then .ok (.plain align) else .error (.fillWithoutMode fill)
  | .filled => .ok (.filled fill align)
  | .zeros =>
    if fill ≠ '0' then .error (.zerosWithFill fill)
    else
      match align with
      | .right => .ok (.zeros false)
      | .decimal => .ok (.zeros true)
      | _ => .error (.zerosWithAlign align)

namespace Draft

/-- Reads a field that holds one of several texts. -/
def choice {α : Type} (d : Draft) (field : Field) (all : List α) (text : α → String) :
    Except DraftError α :=
  match d field with
  | .str s =>
    match all.find? (text · = s) with
    | some a => .ok a
    | none => .error (.notAmong field (all.map text) (.str s))
  | found => .error (.wrongKind field found)

/-- Reads a field that holds a character. -/
def char (d : Draft) (field : Field) : Except DraftError Char :=
  match d field with
  | .str s =>
    match s.toList with
    | [c] => .ok c
    | _ => .error (.notSingle field (.str s))
  | found => .error (.wrongKind field found)

def flag (d : Draft) (field : Field) : Except DraftError Bool :=
  match d field with
  | .bool b => .ok b
  | found => .error (.wrongKind field found)

def separator (d : Draft) : Except DraftError Separator :=
  match d .separator with
  | .unset => .ok .unset
  | .none => .ok .off
  | _ => (d.char .separator).map .char

/-- Reads a field that holds a natural number, unless that is unset or deferred. -/
def count (d : Draft) (field : Field) : Except DraftError (Setting Nat) :=
  match d field with
  | .unset => .ok .unset
  | .deferred => .ok .deferred
  | found =>
    match found.int? with
    | none => .error (.wrongKind field found)
    | some n => if 0 ≤ n then .ok (.fixed n.toNat) else .error (.negative field found)

def spacing (d : Draft) : Except DraftError Spacing :=
  match (d .spacing).int? with
  | none => .error (.wrongKind .spacing (d .spacing))
  | some n =>
    if h : 1 ≤ n then .ok ⟨n.toNat, by omega⟩ else .error (.spacingBelowOne (d .spacing))

/-- Checks the fields one after another, and the margin that three of them make together last. -/
def toStyle (d : Draft) : Except DraftError Style := do
  let align ← d.choice .align Align.all fun a => String.singleton a.char
  let sign ← d.choice .sign SignRule.all fun s => String.singleton s.char
  let mode ← d.choice .mode PadMode.all PadMode.text
  let radix ← d.choice .radix Radix.all fun r => String.singleton r.code
  let alternate ← d.flag .alternate
  let fill ← d.char .fill
  let point ← d.char .point
  let separator ← d.separator
  let width ← d.count .width
  let precision ← d.count .precision
  let spacing ← d.spacing
  let margin ← Margin.ofParts mode fill align
  pure { margin, sign, alternate, width, precision, radix, separator, spacing, point }

/-- Replaces one field. -/
def set (d : Draft) (field : Field) (value : Datum) : Draft :=
  fun other => if other = field then value else d other

end Draft

/-- A width or precision as a datum. -/
def Setting.toDatum : Setting Nat → Datum
  | .unset => .unset
  | .fixed n => .int n
  | .deferred => .deferred

def Separator.toDatum : Separator → Datum
  | .unset => .unset
  | .off => .none
  | .char c => .char c

/-- The fields of a style. -/
def Style.toDraft (s : Style) : Draft
  | .fill => .char s.margin.fill
  | .align => .char s.margin.align.char
  | .sign => .char s.sign.char
  | .alternate => .bool s.alternate
  | .mode => .str s.margin.mode.text
  | .width => s.width.toDatum
  | .precision => s.precision.toDatum
  | .radix => .char s.radix.code
  | .separator => s.separator.toDatum
  | .spacing => .int s.spacing.size
  | .point => .char s.point

/-- The draft in which nothing has been set. -/
def Draft.initial : Draft :=
  ({} : Style).toDraft

end Numeral
