import Mathlib.Data.List.DropRight
import Numeral.Proofs.Registers
import Numeral.Proofs.Validity

namespace Numeral

/-- Whether a field can hold a datum, whatever the other fields hold. -/
def Field.Accepts : Field → Datum → Prop
  | .fill, v | .point, v => ∃ c, v = .char c
  | .align, v => ∃ a : Align, v = .char a.char
  | .sign, v => ∃ r : SignRule, v = .char r.char
  | .alternate, v => ∃ b, v = .bool b
  | .mode, v => ∃ m : PadMode, v = .str m.text
  | .width, v | .precision, v => v.IsCount
  | .radix, v => ∃ r : Radix, v = .char r.code
  | .separator, v => v = .unset ∨ v = .none ∨ ∃ c, v = .char c
  | .spacing, v => ∃ n : Int, v.int? = some n ∧ 1 ≤ n

/-- A call with an argument that is in order by itself. The zero flag takes any: one whose truth fails
leaves the flag as it is. -/
def Setter.Valid (c : Setter) : Prop :=
  match c with
  | .zero _ => True
  | c => c.field.Accepts c.value

namespace Draft

variable {d : Draft} {s : Style} {v : Datum} {c : Setter}

/-- Each field of a draft is in order by itself. Mode, fill and alignment need not fit together. -/
def InOrder (d : Draft) : Prop :=
  ∀ field : Field, field.Accepts (d field)

theorem States.inOrder (states : d.States s) : d.InOrder := by
  have valid := states.valid
  intro field
  cases field with
  | fill => exact valid.fill
  | align => exact valid.align
  | sign => exact valid.sign
  | alternate => exact valid.alternate
  | mode => exact valid.mode
  | width => exact valid.width
  | precision => exact valid.precision
  | radix => exact valid.radix
  | separator => exact valid.separator
  | spacing => exact valid.spacing
  | point => exact valid.point

namespace InOrder

theorem set (ordered : d.InOrder) (field : Field) (accepted : field.Accepts v) :
    (d.set field v).InOrder := by
  intro other
  unfold Draft.set
  split
  · next same => rw [same]; exact accepted
  · exact ordered other

theorem engageZeros (ordered : d.InOrder) : d.engageZeros.InOrder := by
  refine ((ordered.set .fill ⟨'0', rfl⟩).set .align ?_).set .mode ⟨.zeros, rfl⟩
  split
  · exact ordered .align
  · exact ⟨.right, rfl⟩

theorem clearZeros (ordered : d.InOrder) : d.clearZeros.InOrder := by
  unfold Draft.clearZeros
  split
  · exact (ordered.set .fill ⟨' ', rfl⟩).set .mode ⟨.plain, rfl⟩
  · exact ordered

theorem apply (ordered : d.InOrder) (valid : c.Valid) : (d.apply c).InOrder := by
  cases c with
  | fill v => exact (ordered.set .fill valid).set .mode ⟨.filled, rfl⟩
  | zero flag =>
    simp only [Draft.apply]
    split
    · exact ordered.engageZeros
    · exact ordered.clearZeros
    · exact ordered
  | _ => exact ordered.set _ valid

/-- Fields that are in order make up a style if mode, fill and alignment make up a margin. -/
theorem toStyle_eq (ordered : d.InOrder) {mode : PadMode} {fill : Char} {align : Align}
    (atMode : d .mode = .str mode.text) (atFill : d .fill = .char fill)
    (atAlign : d .align = .char align.char) :
    ∃ s : Style, d.toStyle =
      (Margin.ofParts mode fill align).map fun margin => { s with margin } := by
  obtain ⟨sign, atSign⟩ := ordered .sign
  obtain ⟨radix, atRadix⟩ := ordered .radix
  obtain ⟨alternate, atAlternate⟩ := ordered .alternate
  obtain ⟨point, atPoint⟩ := ordered .point
  obtain ⟨separator, atSeparator⟩ := Datum.isSeparator_iff.mp (ordered .separator)
  obtain ⟨width, atWidth⟩ := Datum.isCount_iff.mp (ordered .width)
  obtain ⟨precision, atPrecision⟩ := Datum.isCount_iff.mp (ordered .precision)
  obtain ⟨spacing, atSpacing⟩ := Datum.isSpacing_iff.mp (ordered .spacing)
  refine ⟨{ sign, alternate, width, precision, radix, separator, spacing, point }, ?_⟩
  rw [toStyle, align_eq_ok_iff.mpr atAlign, sign_eq_ok_iff.mpr atSign, mode_eq_ok_iff.mpr atMode,
    radix_eq_ok_iff.mpr atRadix, flag_eq_ok_iff.mpr atAlternate, char_eq_ok_iff.mpr atFill,
    char_eq_ok_iff.mpr atPoint, separator_eq_ok_iff.mpr atSeparator, count_eq_ok_iff.mpr atWidth,
    count_eq_ok_iff.mpr atPrecision, spacing_eq_ok_iff.mpr atSpacing]
  simp only [bind, Except.bind]
  cases Margin.ofParts mode fill align with
  | ok margin => rfl
  | error e => rfl

end InOrder

end Draft

/-- How unused width is filled, whatever the alignment. -/
inductive Filling where
  | plain
  | filled (fill : Char)
  | zeros
  deriving DecidableEq

namespace Filling

def mode : Filling → PadMode
  | .plain => .plain
  | .filled _ => .filled
  | .zeros => .zeros

def char : Filling → Char
  | .plain => ' '
  | .filled c => c
  | .zeros => '0'

end Filling

namespace Margin

def filling : Margin → Filling
  | .plain _ => .plain
  | .filled c _ => .filled c
  | .zeros _ => .zeros

theorem mode_filling (m : Margin) : m.filling.mode = m.mode := by
  cases m <;> rfl

theorem char_filling (m : Margin) : m.filling.char = m.fill := by
  cases m <;> rfl

theorem filling_eq_zeros_iff {m : Margin} : m.filling = .zeros ↔ m.mode = .zeros := by
  cases m with
  | plain | filled => exact ⟨nofun, nofun⟩
  | zeros => exact ⟨fun _ => rfl, fun _ => rfl⟩

theorem filling_eq_filled_iff {m : Margin} {c : Char} :
    m.filling = .filled c ↔ m.mode = .filled ∧ m.fill = c := by
  cases m with
  | plain | zeros => exact ⟨nofun, nofun⟩
  | filled fill a =>
    rw [filling, Filling.filled.injEq]
    exact ⟨fun same => ⟨rfl, same⟩, fun same => same.2⟩

/-- Every filling goes with every alignment, except that zeros stand in front of the digits. -/
theorem ofParts_filling (f : Filling) (a : Align) :
    (f = .zeros ∧ (a = .left ∨ a = .center) ∧
      ofParts f.mode f.char a = .error (.zerosWithAlign a)) ∨
    (¬ (f = .zeros ∧ (a = .left ∨ a = .center)) ∧
      ∃ m, ofParts f.mode f.char a = .ok m ∧ m.filling = f) := by
  cases f with
  | plain => exact Or.inr ⟨nofun, .plain a, rfl, rfl⟩
  | filled c => exact Or.inr ⟨nofun, .filled c a, rfl, rfl⟩
  | zeros =>
    cases a with
    | left => exact Or.inl ⟨rfl, Or.inl rfl, rfl⟩
    | center => exact Or.inl ⟨rfl, Or.inr rfl, rfl⟩
    | right => exact Or.inr ⟨by simp, .zeros false, rfl, rfl⟩
    | decimal => exact Or.inr ⟨by simp, .zeros true, rfl, rfl⟩

end Margin

theorem Datum.char?_char (c : Char) : (Datum.char c).char? = some c := by
  rw [char, char?, String.toList_singleton]

namespace Setter

/-- Whether the zero flag is on after a call that turns it on or off. A fill turns it off. -/
def zeros? : Setter → Option Bool
  | .fill _ => some false
  | .zero flag => flag.truth.toOption
  | _ => none

/-- The filling that a call brings: a fill of its own, or zeros if the zero flag is turned on. -/
def filling? : Setter → Option Filling
  | .fill v => v.char?.map .filled
  | .zero flag => if flag.truth.toOption = some true then some .zeros else none
  | _ => none

/-- The alignment that a call asks for. -/
def align? : Setter → Option Align
  | .align v => v.char?.bind Align.ofChar?
  | _ => none

/-- Whether a call turns the zero flag on. -/
def engages : Setter → Bool
  | .zero flag => flag.truth.toOption = some true
  | _ => false

/-- The alignment asked for last since the zero flag was last turned on. -/
def lastAlign (calls : List Setter) : Option Align :=
  last align? (calls.rtakeWhile fun c => !c.engages)

theorem lastAlign_concat (calls : List Setter) (c : Setter) :
    lastAlign (calls ++ [c]) = if c.engages then none else c.align?.or (lastAlign calls) := by
  unfold lastAlign
  cases engages : c.engages with
  | true =>
    rw [List.rtakeWhile_concat_neg _ _ _ (by rw [engages]; nofun)]
    rfl
  | false =>
    rw [List.rtakeWhile_concat_pos _ _ _ (by rw [engages]; rfl), last_concat]
    rfl

end Setter

namespace Style

variable (s : Style) (calls : List Setter) (c : Setter)

/-- Whether the zero flag is on after some calls that start from a style: as the last call says that
turns it on or off, or as in the style if there is none. -/
def zerosAfter : Bool :=
  (Setter.last Setter.zeros? calls).getD s.zeroFilled

/-- The filling that was brought last by some calls that start from a style, or that of the style. -/
def fillingAfter : Filling :=
  (Setter.last Setter.filling? calls).getD s.margin.filling

theorem zerosAfter_concat :
    s.zerosAfter (calls ++ [c]) = c.zeros?.getD (s.zerosAfter calls) := by
  rw [zerosAfter, Setter.last_concat, Option.getD_or, zerosAfter]

theorem fillingAfter_concat :
    s.fillingAfter (calls ++ [c]) = c.filling?.getD (s.fillingAfter calls) := by
  rw [fillingAfter, Setter.last_concat, Option.getD_or, fillingAfter]

end Style

namespace Draft

/-- What is known of a draft that was made from a style by some calls with valid arguments. Its fields
are in order, mode and fill are those of one filling, and which one this is can be read off the calls.
As long as it is zeros, the alignment is the one asked for last, or the one that the zeros came with. -/
structure Tracks (s : Style) (calls : List Setter) (f : Filling) (d : Draft) : Prop where
  inOrder : d.InOrder
  mode : d .mode = .str f.mode.text
  fill : d .fill = .char f.char
  zeros : f = .zeros ↔ s.zerosAfter calls = true
  filled : ∀ c, f = .filled c ↔ s.fillingAfter calls = .filled c
  align : f = .zeros → ∃ a : Align, (a = .right ∨ a = .decimal) ∧
    d .align = .char ((Setter.lastAlign calls).getD a).char

namespace Tracks

variable {s : Style} {calls : List Setter} {f : Filling} {d : Draft} {c : Setter}

theorem loaded (states : d.States s) : Tracks s [] s.margin.filling d where
  inOrder := states.inOrder
  mode := by rw [states.mode, Margin.mode_filling]
  fill := by rw [states.fill, Margin.char_filling]
  zeros := by
    rw [Style.zerosAfter, Style.zeroFilled]
    cases s.margin with
    | plain | filled => exact ⟨nofun, nofun⟩
    | zeros => exact ⟨fun _ => rfl, fun _ => rfl⟩
  filled _ := Iff.rfl
  align zeros := by
    refine ⟨s.margin.align, ?_, states.align⟩
    cases margin : s.margin with
    | plain | filled => rw [margin] at zeros; cases zeros
    | zeros atPoint =>
      cases atPoint with
      | false => exact Or.inl rfl
      | true => exact Or.inr rfl

/-- A fill replaces any filling. -/
theorem apply_fill (tracks : Tracks s calls f d) (ch : Char) :
    Tracks s (calls ++ [.fill (.char ch)]) (.filled ch) (d.apply (.fill (.char ch))) where
  inOrder := tracks.inOrder.apply ⟨ch, rfl⟩
  mode := rfl
  fill := rfl
  zeros := by
    rw [Style.zerosAfter_concat]
    exact ⟨nofun, nofun⟩
  filled _ := by
    rw [Style.fillingAfter_concat, Setter.filling?, Datum.char?_char]
    exact Iff.rfl
  align := nofun

/-- Zeros replace any filling, and an alignment that they do not go with. -/
theorem apply_engage (tracks : Tracks s calls f d) {flag : Datum} (on : flag.truth = .ok true) :
    Tracks s (calls ++ [.zero flag]) .zeros (d.apply (.zero flag)) := by
  have made : d.apply (.zero flag) = d.engageZeros := by
    simp only [Draft.apply, on]
  rw [made]
  refine ⟨tracks.inOrder.engageZeros, rfl, rfl, ?_, fun ch => ?_, fun _ => ?_⟩
  · rw [Style.zerosAfter_concat, Setter.zeros?, on]
    exact ⟨fun _ => rfl, fun _ => rfl⟩
  · rw [Style.fillingAfter_concat, Setter.filling?, on]
    exact Iff.rfl
  · have none : Setter.lastAlign (calls ++ [.zero flag]) = none := by
      rw [Setter.lastAlign_concat, Setter.engages, on]
      rfl
    obtain ⟨a, atAlign⟩ := tracks.inOrder .align
    have kept : d.engageZeros .align = if a = .decimal then .char 'v' else .char '>' := by
      show (if (d .align).isText "v" then d .align else .char '>') = _
      rw [atAlign]
      cases a <;> rfl
    rw [kept, none]
    split
    · exact ⟨.decimal, Or.inr rfl, rfl⟩
    · exact ⟨.right, Or.inl rfl, rfl⟩

/-- Turning the zero flag off brings blanks in place of zeros, and nothing in place of a fill. -/
theorem apply_clear (tracks : Tracks s calls f d) {flag : Datum} (off : flag.truth = .ok false) :
    Tracks s (calls ++ [.zero flag]) (if f = .zeros then .plain else f) (d.apply (.zero flag)) := by
  have made : d.apply (.zero flag) = d.clearZeros := by
    simp only [Draft.apply, off]
  have same : s.fillingAfter (calls ++ [.zero flag]) = s.fillingAfter calls := by
    rw [Style.fillingAfter_concat, Setter.filling?, off]
    rfl
  have cleared : s.zerosAfter (calls ++ [.zero flag]) = false := by
    rw [Style.zerosAfter_concat, Setter.zeros?, off]
    rfl
  have filled := tracks.filled
  rw [made]
  by_cases zeros : f = .zeros
  · have isZeros : (d .mode).isText PadMode.zeros.text = true := by
      rw [tracks.mode, zeros]
      rfl
    rw [if_pos zeros]
    rw [zeros] at filled
    refine ⟨tracks.inOrder.clearZeros, ?_, ?_, ?_, fun ch => ?_, Filling.noConfusion⟩
    · rw [clearZeros, if_pos isZeros]
      rfl
    · rw [clearZeros, if_pos isZeros]
      rfl
    · rw [cleared]
      exact ⟨Filling.noConfusion, Bool.noConfusion⟩
    · rw [same, ← filled ch]
      exact ⟨Filling.noConfusion, Filling.noConfusion⟩
  · have isOther : (d .mode).isText PadMode.zeros.text = false := by
      rw [tracks.mode]
      cases f with
      | plain | filled => rfl
      | zeros => exact absurd rfl zeros
    have kept : d.clearZeros = d := if_neg (by rw [isOther]; exact Bool.false_ne_true)
    rw [if_neg zeros, kept]
    refine ⟨tracks.inOrder, tracks.mode, tracks.fill, ?_, fun ch => ?_, fun now => absurd now zeros⟩
    · rw [cleared]
      exact ⟨fun now => absurd now zeros, Bool.noConfusion⟩
    · rw [same]
      exact filled ch

theorem apply_align (tracks : Tracks s calls f d) (a : Align) :
    Tracks s (calls ++ [.align (.char a.char)]) f (d.apply (.align (.char a.char))) where
  inOrder := tracks.inOrder.apply ⟨a, rfl⟩
  mode := tracks.mode
  fill := tracks.fill
  zeros := by
    rw [Style.zerosAfter_concat]
    exact tracks.zeros
  filled := by
    rw [Style.fillingAfter_concat]
    exact tracks.filled
  align _ := by
    have asked : Setter.align? (.align (.char a.char)) = some a := by
      rw [Setter.align?, Datum.char?_char, Option.bind_some, Align.ofChar?_char]
    refine ⟨.right, Or.inl rfl, ?_⟩
    rw [Setter.lastAlign_concat, asked]
    rfl

/-- A call that leaves the margin as it is tells nothing about it. -/
theorem apply_silent (tracks : Tracks s calls f d) (valid : c.Valid)
    (same : (d.apply c).SameMargin d)
    (silent : c.zeros? = none ∧ c.filling? = none ∧ c.align? = none ∧ c.engages = false) :
    Tracks s (calls ++ [c]) f (d.apply c) := by
  obtain ⟨zeros, filling, align, engages⟩ := silent
  refine ⟨tracks.inOrder.apply valid, ?_, ?_, ?_, ?_, fun now => ?_⟩
  · rw [same .mode rfl, tracks.mode]
  · rw [same .fill rfl, tracks.fill]
  · rw [Style.zerosAfter_concat, zeros]
    exact tracks.zeros
  · rw [Style.fillingAfter_concat, filling]
    exact tracks.filled
  · rw [same .align rfl, Setter.lastAlign_concat, engages, align]
    exact tracks.align now

/-- A call that is not for the margin tells nothing about it. -/
theorem apply_other (tracks : Tracks s calls f d) (valid : c.Valid) (outside : c.inMargin = false) :
    Tracks s (calls ++ [c]) f (d.apply c) := by
  refine tracks.apply_silent valid (d.sameMargin_apply outside) ?_
  cases c with
  | fill | align | zero => cases outside
  | _ => exact ⟨rfl, rfl, rfl, rfl⟩

/-- A flag whose truth fails leaves the draft as it is. -/
theorem apply_fault (tracks : Tracks s calls f d) {flag : Datum} {fault : Fault}
    (fails : flag.truth = .error fault) :
    Tracks s (calls ++ [.zero flag]) f (d.apply (.zero flag)) := by
  have kept : d.apply (.zero flag) = d := by
    simp only [Draft.apply, fails]
  refine tracks.apply_silent trivial (fun _ _ => by rw [kept]) ?_
  rw [Setter.zeros?, Setter.filling?, Setter.engages, fails]
  exact ⟨rfl, rfl, rfl, rfl⟩

theorem apply (tracks : Tracks s calls f d) (valid : c.Valid) :
    ∃ g, Tracks s (calls ++ [c]) g (d.apply c) := by
  cases c with
  | fill v =>
    obtain ⟨ch, rfl⟩ : ∃ ch, v = .char ch := valid
    exact ⟨.filled ch, tracks.apply_fill ch⟩
  | align v =>
    obtain ⟨a, rfl⟩ : ∃ a : Align, v = .char a.char := valid
    exact ⟨f, tracks.apply_align a⟩
  | zero flag =>
    match truth : flag.truth with
    | .ok true => exact ⟨.zeros, tracks.apply_engage truth⟩
    | .ok false => exact ⟨_, tracks.apply_clear truth⟩
    | .error _ => exact ⟨f, tracks.apply_fault truth⟩
  | _ => exact ⟨f, tracks.apply_other valid rfl⟩

theorem applyAll (states : d.States s) (calls : List Setter) (valid : ∀ c ∈ calls, c.Valid) :
    ∃ f, Tracks s calls f (d.applyAll calls) := by
  induction calls using List.reverseRecOn with
  | nil => exact ⟨s.margin.filling, loaded states⟩
  | append_singleton calls c ih =>
    obtain ⟨f, tracks⟩ := ih fun b member => valid b (List.mem_append_left [c] member)
    rw [applyAll_concat]
    exact tracks.apply (valid c (List.mem_append_right calls List.mem_cons_self))

/-- A draft fails only for zeros that are aligned on the left or in the center; else it makes a style
with its filling. -/
theorem toStyle (tracks : Tracks s calls f d) :
    (s.zerosAfter calls = true ∧
      (Setter.lastAlign calls = some .left ∨ Setter.lastAlign calls = some .center) ∧
      ∃ e, d.toStyle = .error e ∧ e.kind = .value) ∨
    (¬ (s.zerosAfter calls = true ∧
        (Setter.lastAlign calls = some .left ∨ Setter.lastAlign calls = some .center)) ∧
      ∃ t, d.toStyle = .ok t ∧ t.margin.filling = f) := by
  obtain ⟨a, atAlign⟩ := tracks.inOrder .align
  obtain ⟨t, made⟩ := tracks.inOrder.toStyle_eq tracks.mode tracks.fill atAlign
  have asked (zeros : f = .zeros) : (a = .left ∨ a = .center) ↔
      (Setter.lastAlign calls = some .left ∨ Setter.lastAlign calls = some .center) := by
    obtain ⟨b, brought, same⟩ := tracks.align zeros
    have equal : a = (Setter.lastAlign calls).getD b :=
      Align.char_inj.mp (Datum.char_inj.mp (atAlign.symm.trans same))
    rw [equal]
    cases Setter.lastAlign calls with
    | none => rcases brought with rfl | rfl <;> simp
    | some c => simp
  rw [made, ← tracks.zeros]
  rcases Margin.ofParts_filling f a with ⟨zeros, wrong, refused⟩ | ⟨fits, m, accepted, same⟩
  · left
    rw [refused]
    exact ⟨zeros, (asked zeros).mp wrong, _, rfl, rfl⟩
  · right
    rw [accepted]
    exact ⟨fun ⟨zeros, wrong⟩ => fits ⟨zeros, (asked zeros).mpr wrong⟩, _, rfl, same⟩

end Tracks

/-- A draft that was made by any calls with valid arguments from the fields of a style, among them those
in which nothing has been set, fails exactly if the zero flag is on and the last alignment asked for
since it was last turned on is on the left or in the center, and then for a wrong value. A style that it
makes fills with zeros exactly if the last call that turns the flag on or off turns it on, and with a
fill of its own exactly if that came after the flag was last turned on, even if the flag was turned off
later; where there is no such call, as the style did from which it started. Else it fills with
blanks. -/
theorem toStyle_applyAll_zeroFlag {s : Style} {d : Draft} {calls : List Setter}
    (states : d.States s) (valid : ∀ c ∈ calls, c.Valid) :
    ((∃ e, (d.applyAll calls).toStyle = .error e) ↔ s.zerosAfter calls = true ∧
      (Setter.lastAlign calls = some .left ∨ Setter.lastAlign calls = some .center)) ∧
    (∀ e, (d.applyAll calls).toStyle = .error e → e.kind = .value) ∧
    ∀ t, (d.applyAll calls).toStyle = .ok t →
      (t.margin.mode = .zeros ↔ s.zerosAfter calls = true) ∧
      (∀ c, t.margin.mode = .filled ∧ t.margin.fill = c ↔ s.fillingAfter calls = .filled c) ∧
      (s.zerosAfter calls = false → (∀ c, s.fillingAfter calls ≠ .filled c) →
        t.margin.mode = .plain ∧ t.margin.fill = ' ') := by
  obtain ⟨f, tracks⟩ := Tracks.applyAll states calls valid
  rcases tracks.toStyle with ⟨zeros, wrong, e, refused, kind⟩ | ⟨fits, t, made, filling⟩
  · rw [refused]
    refine ⟨⟨fun _ => ⟨zeros, wrong⟩, fun _ => ⟨e, rfl⟩⟩, ?_, ?_⟩
    · rintro _ ⟨⟩
      exact kind
    · rintro _ ⟨⟩
  · rw [made]
    refine ⟨⟨?_, fun both => absurd both fits⟩, ?_, ?_⟩
    · rintro ⟨_, ⟨⟩⟩
    · rintro _ ⟨⟩
    · rintro _ ⟨⟩
      refine ⟨?_, fun c => ?_, fun off without => ?_⟩
      · rw [← Margin.filling_eq_zeros_iff, filling]
        exact tracks.zeros
      · rw [← Margin.filling_eq_filled_iff, filling]
        exact tracks.filled c
      · rw [← t.margin.mode_filling, ← t.margin.char_filling, filling]
        cases f with
        | plain => exact ⟨rfl, rfl⟩
        | filled c => exact absurd ((tracks.filled c).mp rfl) (without c)
        | zeros =>
          rw [tracks.zeros.mp rfl] at off
          cases off

/-- Zeros in the center fail. With the zero flag turned off again, the fill that the flag replaced does
not come back: blanks take its place, and the alignment stays. -/
theorem toStyle_applyAll_zeroFlag_center :
    let s : Style := { margin := .filled '🖤' .right }
    let calls : List Setter :=
      [.align (.char '<'), .zero (.bool true), .width (.int 5), .align (.char '^')]
    (∀ c ∈ calls ++ [.zero .none], c.Valid) ∧
      (∃ e, (s.toDraft.applyAll calls).toStyle = .error e ∧ e.kind = .value) ∧
      (s.toDraft.applyAll (calls ++ [.zero .none])).toStyle =
        .ok { margin := .plain .center, width := .fixed 5 } ∧
      s.zerosAfter (calls ++ [.zero .none]) = false ∧
      ∀ c, s.fillingAfter (calls ++ [.zero .none]) ≠ .filled c := by
  intro s calls
  have width : (Setter.width (.int 5)).Valid := Or.inr (Or.inr ⟨5, rfl, by decide⟩)
  have valid : ∀ c ∈ calls, c.Valid := by
    simp only [calls, List.forall_mem_cons]
    exact ⟨⟨.left, rfl⟩, trivial, width, ⟨.center, rfl⟩, nofun⟩
  have valid' : ∀ c ∈ calls ++ [.zero .none], c.Valid := by
    simp only [List.forall_mem_append, List.forall_mem_singleton]
    exact ⟨valid, trivial⟩
  obtain ⟨fails, kind, _⟩ := toStyle_applyAll_zeroFlag s.states_toDraft valid
  obtain ⟨_, _, makes⟩ := toStyle_applyAll_zeroFlag s.states_toDraft valid'
  have made : (s.toDraft.applyAll (calls ++ [.zero .none])).toStyle =
      .ok { margin := .plain .center, width := .fixed 5 } :=
    toStyle_eq_ok_iff.mpr ⟨rfl, rfl, rfl, rfl, rfl, rfl, rfl, rfl, rfl, rfl, rfl⟩
  obtain ⟨zeros, filled, _⟩ := makes _ made
  obtain ⟨e, refused⟩ := fails.mpr ⟨rfl, Or.inr rfl⟩
  refine ⟨valid', ⟨e, refused, kind e refused⟩, made, ?_, fun c explicit => ?_⟩
  · exact eq_false_of_ne_true (mt zeros.mpr nofun)
  · exact absurd ((filled c).mpr explicit).1 nofun

end Draft

end Numeral
