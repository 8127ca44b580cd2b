import Numeral.Binary64.Basic
import Numeral.Overrides.Basic

namespace Numeral

/-- The kinds of failure that a foreign value can signal. The first three are told apart, since a
conversion goes on after some of them. -/
inductive FaultKind where
  | type
  | value
  | attribute
  | other (name : String)
  deriving DecidableEq

def FaultKind.name : FaultKind → String
  | .type => "TypeError"
  | .value => "ValueError"
  | .attribute => "AttributeError"
  | .other name => name

/-- A failure that a foreign value signals. -/
structure Fault where
  kind : FaultKind
  text : String
  deriving DecidableEq

/-- A plain number, as which every other number counts. -/
inductive Plain where
  | int (n : Int)
  | float (x : Binary64)
  deriving DecidableEq

/-- What a foreign scalar answers when it is asked: its representation, its text, its truth, an
integer or a plain value in its place, the letter of its class of numbers, its number of
dimensions, and a floating point number in its place. It may not know the question, and its answer
may be a failure. A scalar of a kind derived from a plain one is a number itself. -/
structure Facets (δ : Type) where
  kind : String
  shown : Except Fault String
  text : Option (Except Fault String) := none
  truth : Except Fault Bool := .ok true
  index : Option (Except Fault δ) := none
  item : Option (Except Fault δ) := none
  family : Option String := none
  dimensions : Int := 0
  float : Option (Except Fault Binary64) := none
  number : Option Plain := none

/-- A value whose kind is known only when it arrives. `intLike` and `floatLike` are numbers of a
kind derived from the plain one that answers everything as the plain one does, `type` is a kind of
values itself, with its qualified name, and `other` is anything else, with the qualified name of its
kind. -/
inductive Datum where
  | none
  | bool (b : Bool)
  | int (n : Int)
  | float (x : Binary64)
  | str (s : String)
  | bytes (bs : List UInt8)
  | list (ds : List Datum)
  | unset
  | deferred
  | intLike (kind : String) (n : Int)
  | floatLike (kind : String) (x : Binary64)
  | scalar (facets : Facets Datum)
  | type (name qualified : String)
  | style (s : Style)
  | overrides (o : Overrides)
  | other (kind qualified : String)

namespace Datum

/-- A single character as a datum. -/
def char (c : Char) : Datum :=
  .str (String.singleton c)

/-- The number that a datum is. Truth values are no numbers. -/
def number? : Datum → Option Plain
  | .int n => some (.int n)
  | .intLike _ n => some (.int n)
  | .float x => some (.float x)
  | .floatLike _ x => some (.float x)
  | .scalar f => f.number
  | _ => Option.none

/-- The integer that a datum is. -/
def int? (d : Datum) : Option Int :=
  match d.number? with
  | some (.int n) => some n
  | _ => Option.none

/-- The character that a datum is, if it is a text of one character. -/
def char? : Datum → Option Char
  | .str s =>
    match s.toList with
    | [c] => some c
    | _ => Option.none
  | _ => Option.none

/-- Whether a datum counts as true: not if it is absent, zero or empty. A scalar decides for
itself. -/
def truth : Datum → Except Fault Bool
  | .none => .ok false
  | .bool b => .ok b
  | .int n => .ok (n ≠ 0)
  | .intLike _ n => .ok (n ≠ 0)
  | .float x => .ok (!x.isZero)
  | .floatLike _ x => .ok (!x.isZero)
  | .str s => .ok (s ≠ "")
  | .bytes bs => .ok (bs ≠ [])
  | .list ds => .ok (!ds.isEmpty)
  | .unset => .ok false
  | .scalar f => f.truth
  | _ => .ok true

/-- The datum, or another one in place of one that is unset. -/
def orElse (d other : Datum) : Datum :=
  match d with
  | .unset => other
  | d => d

/-- Whether a datum is a certain text. -/
def isText (d : Datum) (text : String) : Bool :=
  match d with
  | .str s => s = text
  | _ => false

/-- Whether two data are the same marker. A marker equals itself alone. -/
def sameMarker : Datum → Datum → Bool
  | .unset, .unset => true
  | .deferred, .deferred => true
  | _, _ => false

/-- What to use in place of a datum that may be unset: a default or the outcome of a factory, but
not both. -/
def ifUnset (d default : Datum) (factory : Option Datum) : Option Datum :=
  match d, factory, default with
  | .unset, Option.none, _ => some default
  | .unset, some made, .none => some made
  | .unset, some _, _ => Option.none
  | _, _, _ => some d

end Datum

end Numeral
