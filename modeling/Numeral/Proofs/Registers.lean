import Mathlib.Data.List.Induction
import Numeral.Draft.Setter

namespace Numeral

/-- The three fields that make up a margin. Some calls change two or three of them at once. -/
def Field.inMargin : Field → Bool
  | .fill | .align | .mode => true
  | _ => false

namespace Setter

/-- The field that a call is about. -/
def field : Setter → Field
  | .fill _ => .fill
  | .align _ => .align
  | .zero _ => .mode
  | .sign _ => .sign
  | .alternate _ => .alternate
  | .width _ | .deferWidth => .width
  | .precision _ | .deferPrecision => .precision
  | .radix _ => .radix
  | .separator _ | .noSeparator => .separator
  | .spacing _ => .spacing
  | .point _ => .point

/-- The datum that a call brings for its field. -/
def value : Setter → Datum
  | .width n | .precision n => Draft.orUnset n
  | .deferWidth | .deferPrecision => .deferred
  | .noSeparator => .none
  | .fill v | .align v | .zero v | .sign v | .alternate v | .radix v | .separator v | .spacing v
  | .point v => v

/-- Whether a call is one for the margin: for a fill, an alignment or the zero flag. -/
def inMargin (c : Setter) : Bool :=
  c.field.inMargin

/-- The datum that a call brings for a certain field, if it is about that field. -/
def valueFor (field : Field) (c : Setter) : Option Datum :=
  if c.field = field then some c.value else none

/-- What the last one of some calls answers, among those that answer at all. -/
def last {α : Type} (answer : Setter → Option α) (calls : List Setter) : Option α :=
  (calls.filterMap answer).getLast?

section

variable {α : Type} (answer : Setter → Option α)

theorem last_append (first second : List Setter) :
    last answer (first ++ second) = (last answer second).or (last answer first) := by
  rw [last, List.filterMap_append, List.getLast?_append]
  rfl

theorem last_singleton (c : Setter) : last answer [c] = answer c := by
  rw [last, List.filterMap_cons]
  cases answer c with
  | none => rfl
  | some a => rfl

theorem last_concat (calls : List Setter) (c : Setter) :
    last answer (calls ++ [c]) = (answer c).or (last answer calls) := by
  rw [last_append, last_singleton]

theorem last_cons (c : Setter) (calls : List Setter) :
    last answer (c :: calls) = (last answer calls).or (answer c) := by
  rw [← List.singleton_append, last_append, last_singleton]

end

end Setter

namespace Draft

variable {d e : Draft} {field : Field} {c : Setter}

theorem applyAll_concat (d : Draft) (calls : List Setter) (c : Setter) :
    d.applyAll (calls ++ [c]) = (d.applyAll calls).apply c := by
  rw [applyAll_append]
  rfl

theorem set_of_ne {v : Datum} {other : Field} (different : other ≠ field) :
    d.set field v other = d other :=
  if_neg different

/-- A call that is not for the margin changes its own field and no other. -/
theorem apply_eq_set (outside : c.inMargin = false) : d.apply c = d.set c.field c.value := by
  cases c with
  | fill | align | zero => cases outside
  | _ => rfl

/-- A call for the margin changes no other field. -/
theorem apply_of_inMargin (inside : c.inMargin = true) (outside : field.inMargin = false) :
    d.apply c field = d field := by
  have fill : field ≠ .fill := by rintro rfl; cases outside
  have align : field ≠ .align := by rintro rfl; cases outside
  have mode : field ≠ .mode := by rintro rfl; cases outside
  cases c with
  | fill v => rw [apply, set_of_ne mode, set_of_ne fill]
  | align v => rw [apply, set_of_ne align]
  | zero flag =>
    simp only [apply]
    cases flag.truth with
    | error fault => rfl
    | ok on =>
      cases on with
      | true => exact (set_of_ne mode).trans ((set_of_ne align).trans (set_of_ne fill))
      | false =>
        simp only [clearZeros]
        split
        · rw [set_of_ne mode, set_of_ne fill]
        · rfl
  | _ => cases inside

/-- Outside the margin a field takes the value that a call brings for it, and else it stays. -/
theorem apply_register (outside : field.inMargin = false) :
    d.apply c field = (c.valueFor field).getD (d field) := by
  unfold Setter.valueFor
  cases place : c.inMargin with
  | true =>
    have other : c.field ≠ field := by
      rintro rfl
      rw [Setter.inMargin, outside] at place
      cases place
    rw [apply_of_inMargin place outside, if_neg other, Option.getD_none]
  | false =>
    rw [apply_eq_set place]
    split
    · next same => rw [← same]; exact if_pos rfl
    · next other => exact set_of_ne (Ne.symm other)

/-- Outside the margin a field holds the last value that the calls bring for it. -/
theorem applyAll_register (outside : field.inMargin = false) (d : Draft) (calls : List Setter) :
    d.applyAll calls field = (Setter.last (Setter.valueFor field) calls).getD (d field) := by
  induction calls using List.reverseRecOn with
  | nil => rfl
  | append_singleton calls c ih =>
    rw [applyAll_concat, apply_register outside, ih, Setter.last_concat, Option.getD_or]

/-- Drafts with the same margin, whatever their other fields hold. -/
def SameMargin (d e : Draft) : Prop :=
  ∀ field : Field, field.inMargin = true → d field = e field

namespace SameMargin

theorem set (same : d.SameMargin e) (field : Field) {v w : Datum} (equal : v = w) :
    (d.set field v).SameMargin (e.set field w) := by
  intro other inside
  unfold Draft.set
  split
  · exact equal
  · exact same other inside

/-- The margin after a call depends on the margin before it and on nothing else. -/
theorem apply (same : d.SameMargin e) (c : Setter) : (d.apply c).SameMargin (e.apply c) := by
  cases c with
  | fill v => exact (same.set .fill rfl).set .mode rfl
  | zero flag =>
    have align := same .align rfl
    have mode := same .mode rfl
    simp only [Draft.apply]
    split
    · unfold engageZeros
      rw [align]
      exact ((same.set .fill rfl).set .align rfl).set .mode rfl
    · unfold clearZeros
      rw [mode]
      split
      · exact (same.set .fill rfl).set .mode rfl
      · exact same
    · exact same
  | _ => exact same.set _ rfl

end SameMargin

/-- The other calls leave the margin as it is. -/
theorem sameMargin_apply (d : Draft) (outside : c.inMargin = false) : (d.apply c).SameMargin d := by
  intro field inside
  rw [apply_eq_set outside]
  refine set_of_ne fun same => ?_
  rw [Setter.inMargin, ← same, inside] at outside
  cases outside

/-- The margin is that to which the calls for the margin lead by themselves. -/
theorem sameMargin_applyAll (d : Draft) (calls : List Setter) :
    (d.applyAll calls).SameMargin (d.applyAll (calls.filter Setter.inMargin)) := by
  induction calls using List.reverseRecOn with
  | nil => exact fun _ _ => rfl
  | append_singleton calls c ih =>
    rw [applyAll_concat, List.filter_append]
    cases place : c.inMargin with
    | true =>
      rw [List.filter_cons_of_pos place, List.filter_nil, applyAll_concat]
      exact ih.apply c
    | false =>
      rw [List.filter_cons_of_neg (by rw [place]; nofun), List.filter_nil, List.append_nil]
      exact fun field inside => (sameMargin_apply _ place field inside).trans (ih field inside)

/-- A draft is made up of its margin, which the calls for it shape in their order, and of the other
fields, each of which holds what was last set. -/
theorem applyAll_eq {xs ys : List Setter}
    (margin : xs.filter Setter.inMargin = ys.filter Setter.inMargin)
    (registers : ∀ field : Field, field.inMargin = false →
      Setter.last (Setter.valueFor field) xs = Setter.last (Setter.valueFor field) ys) (d : Draft) :
    d.applyAll xs = d.applyAll ys := by
  funext field
  cases place : field.inMargin with
  | true =>
    rw [d.sameMargin_applyAll xs field place, margin]
    exact (d.sameMargin_applyAll ys field place).symm
  | false => rw [applyAll_register place, applyAll_register place, registers field place]

end Draft

/-- A value that is set again later does not matter. -/
theorem Setter.last_overwritten {bad good : Setter} (again : good.field = bad.field)
    (before between after : List Setter) (field : Field) :
    last (valueFor field) (before ++ bad :: (between ++ good :: after)) =
      last (valueFor field) (before ++ (between ++ good :: after)) := by
  rw [last_append, last_append, last_cons, Option.or_assoc]
  by_cases same : bad.field = field
  · rw [last_append, last_cons, valueFor, valueFor, if_pos same, if_pos (again.trans same)]
    cases last (valueFor field) after <;> rfl
  · rw [valueFor, if_neg same, Option.none_or]

/-- Outside the margin the order of calls does not matter: two sequences of calls with any arguments
whatever, with the same calls for the margin in the same order and with the same last value for each
other field, make of any draft the same style or fail with the same error. So a wrong value leaves no
trace once its field is set again. -/
theorem Draft.toStyle_applyAll_eq :
    (∀ (d : Draft) (xs ys : List Setter),
      xs.filter Setter.inMargin = ys.filter Setter.inMargin →
      (∀ field : Field, field.inMargin = false →
        Setter.last (Setter.valueFor field) xs = Setter.last (Setter.valueFor field) ys) →
      (d.applyAll xs).toStyle = (d.applyAll ys).toStyle) ∧
    ∀ (d : Draft) (before between after : List Setter) (bad good : Setter),
      bad.inMargin = false → good.field = bad.field →
      (d.applyAll (before ++ bad :: (between ++ good :: after))).toStyle =
        (d.applyAll (before ++ (between ++ good :: after))).toStyle := by
  refine ⟨fun d xs ys margin registers => ?_, fun d before between after bad good outside again => ?_⟩
  · rw [applyAll_eq margin registers]
  · have margin : (before ++ bad :: (between ++ good :: after)).filter Setter.inMargin =
        (before ++ (between ++ good :: after)).filter Setter.inMargin := by
      rw [List.filter_append before, List.filter_append before,
        List.filter_cons_of_neg (by rw [outside]; nofun)]
    rw [applyAll_eq margin fun field _ =>
      Setter.last_overwritten again before between after field]

/-- A sign that is none, a width below zero, a separator of two characters and a group without digits are
all set again. The zero flag stands in front of the alignment in both. -/
theorem Draft.toStyle_applyAll_eq_mended :
    let xs : List Setter :=
      [.sign (.int 1), .zero (.bool true), .width (.int (-3)), .separator (.str ", "),
        .align (.char 'v'), .sign (.char '+'), .separator .none, .deferWidth]
    let ys : List Setter :=
      [.noSeparator, .sign (.char '+'), .zero (.bool true), .width .deferred, .align (.char 'v')]
    (Draft.initial.applyAll xs).toStyle = (Draft.initial.applyAll ys).toStyle ∧
      (Draft.initial.applyAll ys).toStyle =
        .ok { margin := .zeros true, sign := .always, width := .deferred, separator := .off } ∧
      (Draft.initial.applyAll (xs ++ .spacing (.int 0) :: (ys ++ [.spacing (.int 2)]))).toStyle =
        (Draft.initial.applyAll (xs ++ (ys ++ [.spacing (.int 2)]))).toStyle := by
  intro xs ys
  refine ⟨toStyle_applyAll_eq.1 _ xs ys rfl fun field outside => ?_, rfl, ?_⟩
  · cases field with
    | fill | align | mode => cases outside
    | _ => rfl
  · exact toStyle_applyAll_eq.2 _ xs ys [] (.spacing (.int 0)) (.spacing (.int 2)) rfl rfl

end Numeral
