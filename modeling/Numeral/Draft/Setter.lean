import Numeral.Draft.Basic

namespace Numeral

/-- The changes that can be made to a draft. They take any datum: a wrong one is noticed when the
draft is made a style. -/
inductive Setter where
  | fill (value : Datum)
  | align (value : Datum)
  | zero (flag : Datum)
  | sign (value : Datum)
  | alternate (value : Datum)
  | width (value : Datum)
  | deferWidth
  | precision (value : Datum)
  | deferPrecision
  | radix (value : Datum)
  | separator (value : Datum)
  | noSeparator
  | spacing (value : Datum)
  | point (value : Datum)

/-- The failure in a change, if there is one: that of a flag which cannot say whether it is on. -/
def Setter.fault? : Setter → Option Fault
  | .zero flag =>
    match flag.truth with
    | .ok _ => none
    | .error fault => some fault
  | _ => none

namespace Draft

/-- Turns the zero flag on: it brings its own fill, and alignment on the right unless the draft
aligns at the point. -/
def engageZeros (d : Draft) : Draft :=
  let align := if (d .align).isText "v" then d .align else .char '>'
  ((d.set .fill (.char '0')).set .align align).set .mode (.str PadMode.zeros.text)

/-- Turns the zero flag off. A draft that fills in another way stays as it is. -/
def clearZeros (d : Draft) : Draft :=
  if (d .mode).isText PadMode.zeros.text then
    (d.set .fill (.char ' ')).set .mode (.str PadMode.plain.text)
  else d

/-- A width or precision that is given as absent is unset. -/
def orUnset : Datum → Datum
  | .none => .unset
  | d => d

/-- The outcome of a change. One that fails, since a flag cannot say whether it is on, changes
nothing. -/
def apply (d : Draft) : Setter → Draft
  | .fill c => (d.set .fill c).set .mode (.str PadMode.filled.text)
  | .align a => d.set .align a
  | .zero flag =>
    match flag.truth with
    | .ok true => d.engageZeros
    | .ok false => d.clearZeros
    | .error _ => d
  | .sign s => d.set .sign s
  | .alternate flag => d.set .alternate flag
  | .width n => d.set .width (orUnset n)
  | .deferWidth => d.set .width .deferred
  | .precision n => d.set .precision (orUnset n)
  | .deferPrecision => d.set .precision .deferred
  | .radix r => d.set .radix r
  | .separator c => d.set .separator c
  | .noSeparator => d.set .separator .none
  | .spacing n => d.set .spacing n
  | .point c => d.set .point c

/-- Makes one change after another. -/
def applyAll (d : Draft) (setters : List Setter) : Draft :=
  setters.foldl apply d

theorem applyAll_nil (d : Draft) : d.applyAll [] = d :=
  rfl

theorem applyAll_cons (d : Draft) (setter : Setter) (rest : List Setter) :
    d.applyAll (setter :: rest) = (d.apply setter).applyAll rest :=
  rfl

theorem applyAll_append (d : Draft) (first second : List Setter) :
    d.applyAll (first ++ second) = (d.applyAll first).applyAll second :=
  List.foldl_append

end Draft

end Numeral
