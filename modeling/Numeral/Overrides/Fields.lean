import Numeral.Datum.Label

namespace Numeral.Overrides

/-- The fields of the supplied values. -/
inductive Field where
  | quantity (q : Quantity)
  | policy
  deriving DecidableEq

def Field.all : List Field :=
  [.quantity .width, .quantity .precision, .quantity .spacing, .policy]

def Field.name : Field → String
  | .quantity q => q.name
  | .policy => "policy"

/-- Data for the fields. -/
abbrev Entries := Field → Datum

/-- Data that are no values to supply. -/
inductive Invalid where
  | notInteger (q : Quantity) (found : Datum)
  | tooSmall (q : Quantity) (found : Datum)
  | notPolicy (found : Datum)
  | unknownPolicy (found : Datum)

/-- The least value of a quantity. -/
def least : Quantity → Nat
  | .width | .precision => 0
  | .spacing => 1

def Invalid.message : Invalid → String
  | .notInteger q found =>
    q.name ++ " override must be int or None, but got " ++ found.kindLabel
  | .tooSmall q found =>
    q.name ++ " override must be int >= " ++ String.ofList (decimalText (least q)) ++
      ", but got " ++ found.valueLabel
  | .notPolicy found => "policy must be OverridePolicy or str, but got " ++ found.kindLabel
  | .unknownPolicy found =>
    "policy expected one of 'always', 'if_unset', 'dynamic_only', but found " ++ found.valueLabel

theorem le_toNat {k : Nat} {n : Int} (enough : (k : Int) ≤ n) : k ≤ n.toNat := by
  omega

/-- Reads a supplied value, if one is given, and checks that it is not too small. -/
def readQuantity (q : Quantity) (d : Datum) : Except Invalid (Option { n : Nat // least q ≤ n }) :=
  match d with
  | .none => .ok none
  | d =>
    match d.int? with
    | none => .error (.notInteger q d)
    | some n =>
      if h : (least q : Int) ≤ n then .ok (some ⟨n.toNat, le_toNat h⟩) else .error (.tooSmall q d)

def readPolicy : Datum → Except Invalid Policy
  | .str s =>
    match Policy.all.find? (·.text = s) with
    | some policy => .ok policy
    | none => .error (.unknownPolicy (.str s))
  | d => .error (.notPolicy d)

/-- Checks the fields one after another. -/
def ofEntries (entries : Entries) : Except Invalid Overrides := do
  let width ← readQuantity .width (entries (.quantity .width))
  let precision ← readQuantity .precision (entries (.quantity .precision))
  let spacing ← readQuantity .spacing (entries (.quantity .spacing))
  let policy ← readPolicy (entries .policy)
  pure {
    width := width.map Subtype.val
    precision := precision.map Subtype.val
    spacing := spacing.map fun n => ⟨n.val, n.property⟩
    policy }

/-- The data of supplied values. -/
def toEntries (o : Overrides) : Entries
  | .quantity .width => (o.width.map fun n => Datum.int n).getD .none
  | .quantity .precision => (o.precision.map fun n => Datum.int n).getD .none
  | .quantity .spacing => (o.spacing.map fun s => Datum.int s.size).getD .none
  | .policy => .str o.policy.text

/-- Replaces the fields that `patch` names; one given as unset is not named, while one given as
absent drops a supplied value. -/
def merge (o : Overrides) (patch : Entries) : Except Invalid Overrides :=
  ofEntries fun field => (patch field).orElse (o.toEntries field)

/-- What is in force for a quantity that is given as a datum. -/
def resolve (o : Overrides) (q : Quantity) (d : Datum) : Except MissingOverride Datum :=
  let supplied : Option Datum :=
    match q with
    | .width => o.width.map fun n => .int n
    | .precision => o.precision.map fun n => .int n
    | .spacing => o.spacing.map fun s => .int s.size
  let setting : Setting Datum :=
    match d with
    | .unset => .unset
    | .deferred => .deferred
    | d => .fixed d
  ((setting.supply o.policy supplied).inForce q).map fun found => found.getD .unset

end Numeral.Overrides
