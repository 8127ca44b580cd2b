import Mathlib.Algebra.Order.Floor.Div
import Mathlib.Data.Nat.Factorization.Basic
import Numeral.Proofs.FloatWriting
import Numeral.Proofs.Guards
import Numeral.Proofs.Padding
import Numeral.Proofs.Relevance

namespace Numeral

variable {size : Nat} {ds : List Char}

/-- Leaves out the characters at the places of separators. The place of a character is counted from
the right end and from zero: it is the number of characters behind it. -/
def ungroup (size : Nat) : List Char → List Char
  | [] => []
  | c :: rest => if size + 1 ∣ rest.length + 1 then ungroup size rest else c :: ungroup size rest

/-- In front of whole groups, each with its separator, stands a first group of one to `size`
digits. -/
theorem length_group_mod (mark : Char) (nonempty : ds ≠ []) (positive : 0 < size) :
    (group mark size ds).length % (size + 1) = (ds.length - 1) % size + 1 := by
  have some := List.length_pos_iff.mpr nonempty
  have short := Nat.mod_lt (ds.length - 1) positive
  have parts := Nat.div_add_mod' (ds.length - 1) size
  have whole : (group mark size ds).length =
      (ds.length - 1) % size + 1 + (size + 1) * ((ds.length - 1) / size) := by
    rw [length_group, Nat.succ_mul, Nat.mul_comm size]
    omega
  rw [whole, Nat.add_mul_mod_self_left, Nat.mod_eq_of_lt (by omega)]

theorem length_group_div (mark : Char) (nonempty : ds ≠ []) (positive : 0 < size) :
    (group mark size ds).length / (size + 1) = (ds.length - 1) / size := by
  have some := List.length_pos_iff.mpr nonempty
  have remainder := length_group_mod mark nonempty positive
  have parts := Nat.div_add_mod' (ds.length - 1) size
  have whole := Nat.div_add_mod' (group mark size ds).length (size + 1)
  have length := length_group mark size ds
  rw [remainder] at whole
  have same : (group mark size ds).length / (size + 1) * (size + 1) =
      (ds.length - 1) / size * (size + 1) := by
    rw [Nat.mul_succ ((ds.length - 1) / size)]
    omega
  exact Nat.eq_of_mul_eq_mul_right (Nat.succ_pos size) same

/-- The first character does not stand at the place of a separator. -/
theorem not_dvd_length_group (mark : Char) (nonempty : ds ≠ []) (positive : 0 < size) :
    ¬ size + 1 ∣ (group mark size ds).length := by
  rw [Nat.dvd_iff_mod_eq_zero, length_group_mod mark nonempty positive]
  exact Nat.succ_ne_zero _

/-- In front of some digits is the place of a separator exactly if they make up whole groups. -/
theorem dvd_length_group_succ_iff (mark : Char) (nonempty : ds ≠ []) (positive : 0 < size) :
    size + 1 ∣ (group mark size ds).length + 1 ↔ ds.length % size = 0 := by
  obtain ⟨less, rfl⟩ := Nat.exists_eq_succ_of_ne_zero (Nat.ne_of_gt positive)
  obtain ⟨fewer, length⟩ := Nat.exists_eq_succ_of_ne_zero
    (Nat.ne_of_gt (List.length_pos_iff.mpr nonempty))
  rw [Nat.dvd_iff_mod_eq_zero, Nat.succ_mod_succ_eq_zero_iff, length_group_mod mark nonempty positive,
    length, Nat.succ_mod_succ_eq_zero_iff]
  exact Nat.succ_inj

/-- Leaving out the characters at the places of separators gives the digits back. -/
theorem ungroup_group (mark : Char) (positive : 0 < size) (ds : List Char) :
    ungroup size (group mark size ds) = ds := by
  induction ds with
  | nil => rfl
  | cons c rest ih =>
    have kept := not_dvd_length_group mark (List.cons_ne_nil c rest) positive
    rw [group] at kept ⊢
    split at kept
    · next whole =>
      have place := (dvd_length_group_succ_iff mark whole.1 positive).mpr whole.2
      rw [List.length_cons] at kept
      rw [if_pos whole, ungroup, if_neg kept, ungroup, if_pos place, ih]
    · next part =>
      rw [List.length_cons] at kept
      rw [if_neg part, ungroup, if_neg kept, ih]

/-- The character in front has as many characters behind it as there are; the others keep their
places. -/
theorem getElem?_reverse_cons (c : Char) (rest : List Char) (j : Nat) :
    (c :: rest).reverse[j]? = if j = rest.length then some c else rest.reverse[j]? := by
  rw [List.reverse_cons, List.getElem?_append, List.length_reverse]
  rcases Nat.lt_trichotomy j rest.length with behind | rfl | beyond
  · rw [if_pos behind, if_neg (by omega)]
  · simp
  · rw [if_neg (by omega), if_neg (by omega), List.getElem?_eq_none (by simp; omega),
      List.getElem?_eq_none (by simp; omega)]

/-- At each place of a separator stands one. -/
theorem getElem?_reverse_group (mark : Char) (positive : 0 < size) {j : Nat}
    (within : j < (group mark size ds).length) (place : size + 1 ∣ j + 1) :
    (group mark size ds).reverse[j]? = some mark := by
  induction ds with
  | nil => cases within
  | cons c rest ih =>
    have first := not_dvd_length_group mark (List.cons_ne_nil c rest) positive
    have inside : j + 1 < (group mark size (c :: rest)).length :=
      Nat.lt_of_le_of_ne within fun last => first (last ▸ place)
    rw [group] at inside ⊢
    split at inside
    · next whole =>
      rw [List.length_cons, List.length_cons] at inside
      rw [if_pos whole, getElem?_reverse_cons, if_neg (by rw [List.length_cons]; omega),
        getElem?_reverse_cons]
      split
      · rfl
      · exact ih (by omega)
    · next part =>
      rw [List.length_cons] at inside
      rw [if_neg part, getElem?_reverse_cons, if_neg (by omega)]
      exact ih (by omega)

/-- What does not stand at the place of a separator is kept. -/
theorem mem_ungroup {out : List Char} {c : Char} {j : Nat} (found : out.reverse[j]? = some c)
    (place : ¬ size + 1 ∣ j + 1) : c ∈ ungroup size out := by
  induction out with
  | nil => cases found
  | cons d rest ih =>
    rw [getElem?_reverse_cons] at found
    rw [ungroup]
    split at found
    · next first =>
      cases found
      rw [if_neg (first ▸ place)]
      exact List.mem_cons_self
    · split
      · exact ih found
      · exact List.mem_cons_of_mem d (ih found)

/-- The law of grouping: `out` is `ds` with a separator at each place whose number, counted from the
right end and from one, is a multiple of `size + 1`, and with nothing else. -/
structure Grouped (mark : Char) (size : Nat) (ds out : List Char) : Prop where
  marks : ∀ j < out.length, size + 1 ∣ j + 1 → out.reverse[j]? = some mark
  digits : ungroup size out = ds
  only : mark ∉ ds → ∀ j < out.length, (out.reverse[j]? = some mark ↔ size + 1 ∣ j + 1)
  first : out.head? = ds.head? ∧ ¬ size + 1 ∣ out.length
  count : ((Finset.range out.length).filter fun j => size + 1 ∣ j + 1).card =
    ds.length ⌈/⌉ size - 1

theorem group_grouped (mark : Char) (positive : 0 < size) (nonempty : ds ≠ []) :
    Grouped mark size ds (group mark size ds) where
  marks _ := getElem?_reverse_group mark positive
  digits := ungroup_group mark positive ds
  only absent j within := by
    refine ⟨fun found => ?_, getElem?_reverse_group mark positive within⟩
    by_contra place
    have kept := mem_ungroup found place
    rw [ungroup_group mark positive] at kept
    exact absent kept
  first := ⟨head?_group mark size ds, not_dvd_length_group mark nonempty positive⟩
  count := by
    have some := List.length_pos_iff.mpr nonempty
    have more : ds.length + size - 1 = ds.length - 1 + size := by omega
    rw [Nat.card_multiples, length_group_div mark nonempty positive, Nat.ceilDiv_eq_add_pred_div, more,
      Nat.add_div_right _ positive, Nat.succ_sub_one]

namespace Style

/-- Digits as a style writes them: grouped if it has a separator, and otherwise as they are. -/
def Groups (s : Style) (spacing : Spacing) (ds out : List Char) : Prop :=
  match s.separator.mark? with
  | some mark => Grouped mark spacing.size ds out
  | none => out = ds

theorem integral_groups (s : Style) (spacing : Spacing) (whole : Nat) :
    s.Groups spacing (s.radix.text whole) (s.integral spacing whole) := by
  unfold Groups integral
  cases s.separator.mark? with
  | none => rfl
  | some mark => exact group_grouped mark spacing.size_pos (s.radix.text_ne_nil whole)

/-- Turning the separator off changes the integral digits of a number and nothing else. -/
theorem pieces_off (s : Style) (m : Measures) {n : Number} (finite : n.isFinite = true) :
    ∃ whole, (s.pieces m n).integral = s.integral m.spacing whole ∧
      { s with separator := .off }.pieces m n =
        { s.pieces m n with integral := s.radix.text whole } := by
  unfold pieces
  cases special : n.special with
  | some special' => rw [Number.isFinite, special] at finite; cases finite
  | none => exact ⟨_, rfl, rfl⟩

end Style

namespace Datum

/-- A datum is written without padding if its precision is settled and it is a number. -/
theorem renderUnpadded_eq_ok_iff {s : Style} {o : Overrides} {value : Datum} {out : String} :
    renderUnpadded s value o = .ok out ↔
      ∃ precision n, o.precisionFor s = .ok precision ∧ value.toNumber false = .ok n ∧
        String.ofList (s.pieces { precision, spacing := o.spacingFor s } n).text = out := by
  constructor
  · intro written
    obtain ⟨m, n, settled, number, _⟩ := render_eq_ok_iff.mp written
    have precision : o.precisionFor s = .ok m.precision := (Style.measures_eq_ok_iff.mp settled).1
    refine ⟨m.precision, n, precision, number, ?_⟩
    rw [renderUnpadded_eq precision number, Margin.pad_zero] at written
    exact Except.ok.inj written
  · rintro ⟨precision, n, settled, number, rfl⟩
    rw [renderUnpadded_eq settled number, Margin.pad_zero]

/-- Grouping inserts separators and nothing else. They stand at the places whose number, counted from
the right end, is a multiple of one more than the size of a group, so that a digit stands in front and
`⌈length / size⌉ - 1` separators are put in; at the other places stand the digits in their order. A
number that has digits is written with its separators as it is written without one, except for the
characters at these places of its integral part: sign, base marker and fraction are not grouped. -/
theorem render_separators :
    (∀ (mark : Char) (spacing : Spacing) (ds : List Char), ds ≠ [] →
      ∃ out, groupChecked mark spacing.size ds = .ok out ∧ out = group mark spacing.size ds ∧
        Grouped mark spacing.size ds out) ∧
    ∀ (s : Style) (o : Overrides) (value : Datum) (out : String),
      renderUnpadded s value o = .ok out →
      (∀ x, value.toPlain false = .ok (.float x) → x.isFinite = true) →
      ∃ (n : Number) (whole : Nat) (integral tail : List Char),
        value.toNumber false = .ok n ∧
        s.Groups (o.spacingFor s) (s.radix.text whole) integral ∧
        (tail = [] ∨ ∃ fraction : Digits 10, fraction ≠ [] ∧ tail = s.point :: fraction.chars) ∧
        out.toList = s.sign.text n.negative ++ s.marker ++ (integral ++ tail) ∧
        renderUnpadded { s with separator := .off } value o =
          .ok (String.ofList
            (s.sign.text n.negative ++ s.marker ++ (s.radix.text whole ++ tail))) := by
  refine ⟨fun mark spacing ds nonempty => ?_, fun s o value out written finite => ?_⟩
  · exact ⟨_, groupChecked_eq mark spacing.size_pos nonempty, rfl,
      group_grouped mark spacing.size_pos nonempty⟩
  · obtain ⟨precision, n, settled, number, rfl⟩ := renderUnpadded_eq_ok_iff.mp written
    have digits : n.isFinite = true := by
      by_contra special
      obtain ⟨x, float, infinite⟩ :=
        (isFinite_eq_false_iff number).mp (eq_false_of_ne_true special)
      rw [finite x float] at infinite
      cases infinite
    let m : Measures := { precision, spacing := o.spacingFor s }
    obtain ⟨whole, integral, without⟩ := s.pieces_off m digits
    have lead : (s.pieces m n).lead = s.sign.text n.negative ++ s.marker := by
      rw [s.lead_pieces, if_pos digits]
    refine ⟨n, whole, (s.pieces m n).integral, (s.pieces m n).tail, number, ?_,
      s.tail_pieces m n, ?_, ?_⟩
    · rw [integral]
      exact s.integral_groups (o.spacingFor s) whole
    · rw [String.toList_ofList, Pieces.text, lead]
    · refine renderUnpadded_eq_ok_iff.mpr ⟨precision, n, settled, number, ?_⟩
      show String.ofList ({ s with separator := .off }.pieces m n).text = _
      rw [without, Pieces.text, lead]

/-- The separator is also the letter of the base marker and the point, so that only its places tell it
from them: the third and the sixth of the integral part from its right end. -/
theorem render_separators_alike :
    let s : Style := { alternate := true, radix := .hexUpper, separator := .char 'x',
                       spacing := ⟨2, by decide⟩, point := 'x' }
    let x : Datum := .float ⟨0xC12579BD00000000⟩
    renderUnpadded s x {} = .ok "-0xAxBCxDEx5" ∧
      (∀ y, x.toPlain false = .ok (.float y) → y.isFinite = true) ∧
      ∃ whole integral tail, s.Groups s.spacing (s.radix.text whole) integral ∧
        "-0xAxBCxDEx5".toList = "-0x".toList ++ (integral ++ tail) ∧
        renderUnpadded { s with separator := .off } x {} =
          .ok (String.ofList ("-0x".toList ++ (s.radix.text whole ++ tail))) := by
  intro s x
  let n : Number := { negative := true, magnitude := ⟨7037105, 1⟩, isFloat := true }
  have number : x.toNumber false = .ok n :=
    (toNumber_float rfl (Or.inl rfl)).trans (congrArg Except.ok (by decide +kernel))
  have written : renderUnpadded s x {} = .ok "-0xAxBCxDEx5" :=
    renderUnpadded_eq_ok_iff.mpr ⟨Option.none, n, rfl, number, by decide +kernel⟩
  have finite : ∀ y, x.toPlain false = .ok (.float y) → y.isFinite = true := by
    rintro _ ⟨⟩
    decide
  obtain ⟨k, whole, integral, tail, number', groups, _, out, without⟩ :=
    render_separators.2 s {} x _ written finite
  rw [number] at number'
  cases number'
  exact ⟨written, finite, whole, integral, tail, groups, out, without⟩

end Datum

end Numeral
