import Numeral.Binary64.Text
import Numeral.Datum.Basic
import Numeral.Digits.Limit
import Numeral.Label

namespace Numeral.Datum

-- Powers are those of the core library, whatever else is imported.
attribute [local instance (high)] instPowNat

/-- The name of the kind of a datum. -/
def kindName : Datum → String
  | .none => "NoneType"
  | .bool _ => "bool"
  | .int _ => "int"
  | .float _ => "float"
  | .str _ => "str"
  | .bytes _ => "bytes"
  | .list _ => "list"
  | .unset => "UnsetType"
  | .deferred => "DynamicType"
  | .intLike kind _ => kind
  | .floatLike kind _ => kind
  | .scalar f => f.kind
  | .type .. => "type"
  | .style _ => "FormatSpec"
  | .overrides _ => "DynamicOverrides"
  | .other kind _ => kind

/-- The name of the kind of a datum with that of the place where the kind is defined, where the two
are known together. -/
def qualifiedKind : Datum → String
  | .other _ qualified => qualified
  | d => d.kindName

/-- The representation of an integer, which can have too many digits for one. -/
def shownInt (n : Int) : Except Fault (List Char) :=
  if n.natAbs < 10 ^ Digits.limit then .ok (integerText n)
  else .error ⟨.value, DigitError.tooLarge.message⟩

mutual

/-- The representation of a datum. That of a list fails if that of a member does. -/
def shown : Datum → Except Fault (List Char)
  | .none => .ok "None".toList
  | .bool b => .ok (if b then "True".toList else "False".toList)
  | .int n => shownInt n
  | .float x => .ok x.text
  | .str s => .ok (Quoted.text s.toList)
  | .bytes bs => .ok (Quoted.bytes bs)
  | .list ds => (shownAll ds).map fun texts => '[' :: (texts ++ [']'])
  | .unset => .ok "<UNSET>".toList
  | .deferred => .ok "<DYNAMIC>".toList
  | .intLike _ n => shownInt n
  | .floatLike _ x => .ok x.text
  | .scalar f => f.shown.map String.toList
  | .type _ qualified => .ok ("<class '".toList ++ qualified.toList ++ "'>".toList)
  | .style s => .ok (kindName (.style s)).toList
  | .overrides o => .ok (kindName (.overrides o)).toList
  | .other kind _ => .ok kind.toList

/-- The representations of the members of a list, with commas between them. -/
def shownAll : List Datum → Except Fault (List Char)
  | [] => .ok []
  | [d] => shown d
  | d :: rest => do
    let first ← shown d
    let others ← shownAll rest
    pure (first ++ ',' :: ' ' :: others)

end

/-- The kind of a datum as a label. A kind itself is labelled by its own name. -/
def kindLabel : Datum → String
  | .type name _ => String.ofList (Label.kind name)
  | d => String.ofList (Label.kind d.kindName)

/-- Kind and representation of a datum as a label. Where the representation fails, the label says
so instead. -/
def label (d : Datum) (limit : Int) : String :=
  let kind := d.kindName
  let text :=
    match d.shown with
    | .ok text => text
    | .error fault =>
      ("<" ++ kind ++ " object (repr failed: " ++ fault.kind.name ++ ")>").toList
  String.ofList (Label.value kind limit text)

/-- The label of a datum in a message. -/
def valueLabel (d : Datum) : String :=
  d.label Label.limit

/-- A character with its code point; anything else as a value. -/
def charLabel (d : Datum) : String :=
  match d.char? with
  | some c => String.ofList (Label.char c)
  | Option.none => d.valueLabel

end Numeral.Datum
