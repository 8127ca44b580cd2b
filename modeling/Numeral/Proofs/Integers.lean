import Mathlib.Data.List.Basic
import Numeral.Proofs.Missing
import Numeral.Proofs.Padding

namespace Numeral

namespace Radix

variable (r : Radix)

theorem digitChar_injective : Function.Injective (digitChar r.ten (b := r.base)) := by
  intro d e
  revert d e
  cases r <;> decide

/-- A digit is neither a minus nor a blank, and only zero is written as one. -/
theorem digitChar_ne (d : Fin r.base) :
    digitChar r.ten d ≠ '-' ∧ digitChar r.ten d ≠ ' ' ∧ (digitChar r.ten d = '0' → d.val = 0) := by
  revert d
  cases r <;> decide

theorem text_injective : Function.Injective r.text := by
  intro m n same
  have digits := List.map_injective_iff.mpr r.digitChar_injective same
  exact (Digits.ofNat_inj r.two_le_base).mp digits

/-- A text starts with a digit, and only that of zero with the digit zero. -/
theorem head?_text (n : Nat) :
    ∃ d : Fin r.base, (r.text n).head? = some (digitChar r.ten d) ∧ (0 < n → 0 < d.val) := by
  cases n with
  | zero =>
    rw [text, Digits.ofNat_of_lt r.two_le_base (Nat.lt_of_lt_of_le Nat.two_pos r.two_le_base)]
    exact ⟨_, rfl, fun positive => absurd positive (Nat.lt_irrefl 0)⟩
  | succ n =>
    obtain ⟨d, ds, written, leading⟩ := Digits.head_ofNat r.two_le_base (Nat.succ_pos n)
    exact ⟨d, by rw [text, written, List.map_cons, List.head?_cons], fun _ => leading⟩

theorem getLast?_text (n : Nat) :
    ∃ d : Fin r.base, (r.text n).getLast? = some (digitChar r.ten d) := by
  rw [text, List.getLast?_map]
  cases last : (Digits.ofNat r.two_le_base n).getLast? with
  | none => exact absurd (List.getLast?_eq_none_iff.mp last) (Digits.ofNat_ne_nil _ n)
  | some d => exact ⟨d, rfl⟩

theorem text_zero : r.text 0 = ['0'] := by
  rw [text, Digits.ofNat_of_lt r.two_le_base (Nat.lt_of_lt_of_le Nat.two_pos r.two_le_base)]
  rfl

end Radix

namespace Style

variable (s : Style) (spacing : Spacing)

theorem integral_injective : Function.Injective (s.integral spacing) := by
  intro m n same
  unfold integral at same
  cases mark : s.separator.mark? with
  | none =>
    rw [mark] at same
    exact s.radix.text_injective same
  | some c =>
    rw [mark] at same
    exact s.radix.text_injective (group_injective c spacing.size same)

theorem head?_integral (n : Nat) :
    ∃ d : Fin s.radix.base, (s.integral spacing n).head? = some (digitChar s.radix.ten d) ∧
      (0 < n → 0 < d.val) := by
  obtain ⟨d, head, leading⟩ := s.radix.head?_text n
  refine ⟨d, ?_, leading⟩
  unfold integral
  cases s.separator.mark? with
  | none => exact head
  | some c => exact (head?_group c spacing.size _).trans head

theorem getLast?_integral (n : Nat) :
    ∃ d : Fin s.radix.base, (s.integral spacing n).getLast? = some (digitChar s.radix.ten d) := by
  obtain ⟨d, last⟩ := s.radix.getLast?_text n
  refine ⟨d, ?_⟩
  unfold integral
  cases s.separator.mark? with
  | none => exact last
  | some c => exact (getLast?_group c spacing.size _).trans last

theorem integral_zero : s.integral spacing 0 = ['0'] := by
  unfold integral
  rw [s.radix.text_zero]
  cases s.separator.mark? with
  | none => rfl
  | some c => exact group_of_length_le spacing.size_pos

end Style

/-- A run of one character in front of a text is told apart from a text that does not start with
that character. -/
theorem eq_of_replicate_append_eq {c : Char} {i j : Nat} {cs ds : List Char}
    (left : cs.head? ≠ some c) (right : ds.head? ≠ some c)
    (same : List.replicate i c ++ cs = List.replicate j c ++ ds) : cs = ds := by
  induction i generalizing j with
  | zero =>
    cases j with
    | zero => exact same
    | succ j =>
      rw [List.replicate_zero, List.nil_append, List.replicate_succ] at same
      rw [same] at left
      exact absurd rfl left
  | succ i ih =>
    cases j with
    | zero =>
      rw [List.replicate_zero, List.nil_append, List.replicate_succ] at same
      rw [← same] at right
      exact absurd rfl right
    | succ j =>
      rw [List.replicate_succ, List.replicate_succ] at same
      exact ih (List.cons.inj same).2

theorem eq_of_append_replicate_eq {c : Char} {i j : Nat} {cs ds : List Char}
    (left : cs.getLast? ≠ some c) (right : ds.getLast? ≠ some c)
    (same : cs ++ List.replicate i c = ds ++ List.replicate j c) : cs = ds := by
  have backward := congrArg List.reverse same
  rw [List.reverse_append, List.reverse_append, List.reverse_replicate,
    List.reverse_replicate] at backward
  rw [← List.head?_reverse] at left right
  exact List.reverse_injective (eq_of_replicate_append_eq left right backward)

/-- A text that neither starts nor ends with a certain character. -/
structure Bare (c : Char) (cs : List Char) : Prop where
  head : ∃ first, cs.head? = some first ∧ first ≠ c
  last : ∃ final, cs.getLast? = some final ∧ final ≠ c

/-- Padding on both sides can be taken off such a text. -/
theorem Bare.eq_of_padded_eq {c : Char} {i i' j j' : Nat} {cs ds : List Char} (left : Bare c cs)
    (right : Bare c ds) (same : List.replicate i c ++ cs ++ List.replicate i' c =
      List.replicate j c ++ ds ++ List.replicate j' c) : cs = ds := by
  have head {es : List Char} (bare : Bare c es) (k : Nat) :
      (es ++ List.replicate k c).head? ≠ some c := by
    obtain ⟨first, starts, other⟩ := bare.head
    rw [List.head?_append, starts]
    exact fun found => other (Option.some.inj found)
  have last {es : List Char} (bare : Bare c es) : es.getLast? ≠ some c := by
    obtain ⟨final, ends, other⟩ := bare.last
    rw [ends]
    exact fun found => other (Option.some.inj found)
  rw [List.append_assoc, List.append_assoc] at same
  exact eq_of_append_replicate_eq (last left) (last right)
    (eq_of_replicate_append_eq (head left i') (head right j') same)

/-- A sign is told apart from a text that does not start with a minus. -/
theorem SignRule.eq_of_text_append_eq {rule : SignRule} {x y : Bool} {cs ds : List Char}
    (left : cs.head? ≠ some '-') (right : ds.head? ≠ some '-')
    (same : rule.text x ++ cs = rule.text y ++ ds) : x = y ∧ cs = ds := by
  have plus {es es' : List Char} (other : es'.head? ≠ some '-') :
      rule.text true ++ es ≠ rule.text false ++ es' := by
    intro equal
    cases rule with
    | negativeOnly => exact other (congrArg List.head? equal).symm
    | always => exact absurd (List.cons.inj equal).1 (by decide)
  cases x with
  | true =>
    cases y with
    | true => exact ⟨rfl, List.append_cancel_left same⟩
    | false => exact absurd same (plus right)
  | false =>
    cases y with
    | true => exact absurd same.symm (plus left)
    | false => exact ⟨rfl, List.append_cancel_left same⟩

theorem Bare.append {c : Char} {lead cs : List Char} (bare : Bare c cs)
    (head : lead.head? ≠ some c) : Bare c (lead ++ cs) where
  head := by
    cases lead with
    | nil => exact bare.head
    | cons first rest => exact ⟨first, rfl, fun found => head (congrArg some found)⟩
  last := by
    obtain ⟨final, ends, other⟩ := bare.last
    exact ⟨final, by rw [List.getLast?_append, ends, Option.some_or], other⟩

theorem head?_replicate_append_ne {c d : Char} {cs : List Char} (k : Nat) (other : c ≠ d)
    (head : cs.head? ≠ some d) : (List.replicate k c ++ cs).head? ≠ some d := by
  cases k with
  | zero => exact head
  | succ k => exact fun found => other (Option.some.inj found)

namespace Style

variable {s : Style} {m : Measures}

/-- An integer has no fraction, whatever precision is in force. -/
theorem pieces_ofInt (s : Style) (m : Measures) (n : Int) :
    s.pieces m (.ofInt n) =
      { lead := s.sign.text (n < 0) ++ s.marker, integral := s.integral m.spacing n.natAbs } := by
  have whole : FixedPoint.whole ⟨n.natAbs, 0⟩ = n.natAbs := by
    rw [FixedPoint.whole, Nat.pow_zero, Nat.div_one]
  cases precision : m.precision <;>
    simp [pieces, Number.ofInt, Number.rounded, precision, whole]

/-- A base marker starts with a zero. -/
theorem marker_append_ne {c : Char} {cs : List Char} (other : '0' ≠ c)
    (head : cs.head? ≠ some c) : (s.marker ++ cs).head? ≠ some c := by
  unfold marker
  split
  · cases s.radix <;> exact fun found => other (Option.some.inj found)
  · exact head

/-- Neither a sign nor a base marker is a blank. -/
theorem lead_ne (s : Style) (negative : Bool) :
    (s.sign.text negative ++ s.marker).head? ≠ some ' ' := by
  have marker : (s.marker ++ []).head? ≠ some ' ' := marker_append_ne (by decide) nofun
  rw [List.append_nil] at marker
  unfold SignRule.text
  split
  · exact fun found => absurd (Option.some.inj found) (by decide)
  · split
    · exact fun found => absurd (Option.some.inj found) (by decide)
    · exact marker

theorem integral_head_ne (s : Style) (spacing : Spacing) (n : Nat) :
    (s.integral spacing n).head? ≠ some '-' := by
  obtain ⟨d, head, _⟩ := s.head?_integral spacing n
  rw [head]
  exact fun found => (s.radix.digitChar_ne d).1 (Option.some.inj found)

/-- The integral digits keep clear of every character that is no digit. -/
theorem integral_bare {c : Char} (other : ∀ d : Fin s.radix.base, digitChar s.radix.ten d ≠ c)
    (spacing : Spacing) (n : Nat) : Bare c (s.integral spacing n) := by
  obtain ⟨d, head, _⟩ := s.head?_integral spacing n
  obtain ⟨e, last⟩ := s.getLast?_integral spacing n
  exact ⟨⟨_, head, other d⟩, ⟨_, last, other e⟩⟩

/-- Zeros in front of the integral digits do not hide where these start, except that zero has no
digit of its own among them. -/
theorem eq_of_zeros_append_integral_eq {spacing : Spacing} {i j a b : Nat}
    (same : List.replicate i '0' ++ s.integral spacing a =
      List.replicate j '0' ++ s.integral spacing b) : a = b := by
  have significant (n : Nat) : ∃ cs : List Char, cs.head? ≠ some '0' ∧
      (∀ k, ∃ k', List.replicate k '0' ++ s.integral spacing n = List.replicate k' '0' ++ cs) ∧
      (n = 0 ∧ cs = [] ∨ 0 < n ∧ cs = s.integral spacing n) := by
    rcases Nat.eq_zero_or_pos n with rfl | positive
    · refine ⟨[], nofun, fun k => ⟨k + 1, ?_⟩, Or.inl ⟨rfl, rfl⟩⟩
      rw [s.integral_zero, List.append_nil, List.replicate_succ']
    · obtain ⟨d, head, leading⟩ := s.head?_integral spacing n
      refine ⟨s.integral spacing n, fun found => ?_, fun k => ⟨k, rfl⟩, Or.inr ⟨positive, rfl⟩⟩
      rw [head] at found
      have zero := (s.radix.digitChar_ne d).2.2 (Option.some.inj found)
      have nonzero := leading positive
      omega
  have nonempty (n : Nat) : s.integral spacing n ≠ [] := by
    obtain ⟨d, head, _⟩ := s.head?_integral spacing n
    exact fun none => by rw [none] at head; cases head
  obtain ⟨cs, left, shownLeft, isLeft⟩ := significant a
  obtain ⟨ds, right, shownRight, isRight⟩ := significant b
  obtain ⟨i', atLeft⟩ := shownLeft i
  obtain ⟨j', atRight⟩ := shownRight j
  rw [atLeft, atRight] at same
  have equal := eq_of_replicate_append_eq left right same
  rcases isLeft with ⟨rfl, none⟩ | ⟨_, some⟩ <;> rcases isRight with ⟨rfl, none'⟩ | ⟨_, some'⟩
  · rfl
  · exact absurd (some'.symm.trans (equal.symm.trans none)) (nonempty b)
  · exact absurd (some.symm.trans (equal.trans none')) (nonempty a)
  · exact s.integral_injective spacing (some.symm.trans (equal.trans some'))

/-- Sign and magnitude make up an integer. -/
theorem eq_of_negative_of_natAbs {a b : Int} (negative : decide (a < 0) = decide (b < 0))
    (magnitude : a.natAbs = b.natAbs) : a = b := by
  rw [decide_eq_decide] at negative
  omega

/-- Blanks stand around the whole number. -/
theorem write_plain {align : Align} (margin : s.margin = .plain align) (n : Int) :
    ∃ i j, s.write m (.ofInt n) = List.replicate i ' ' ++
      (s.sign.text (n < 0) ++ (s.marker ++ s.integral m.spacing n.natAbs)) ++
        List.replicate j ' ' := by
  have law := s.margin.pad_padded m.width (s.pieces m (.ofInt n))
  have shown := law.plain (by rw [margin]; rfl)
  have blank : s.margin.fill = ' ' := by rw [margin]; rfl
  rw [s.pieces_ofInt, blank] at shown
  simp only [Pieces.text, List.append_nil, List.append_assoc] at shown
  exact ⟨_, _, by rw [write, s.pieces_ofInt, shown, List.append_assoc, List.append_assoc,
    List.append_assoc]⟩

/-- Zeros stand between the lead and the digits. -/
theorem write_zeros {atPoint : Bool} (margin : s.margin = .zeros atPoint) (n : Int) :
    ∃ k, s.write m (.ofInt n) = s.sign.text (n < 0) ++
      (s.marker ++ (List.replicate k '0' ++ s.integral m.spacing n.natAbs)) := by
  have law := s.margin.pad_padded m.width (s.pieces m (.ofInt n))
  have shown := law.zeros (by rw [margin]; rfl)
  have zero : s.margin.fill = '0' := by rw [margin]; rfl
  rw [s.pieces_ofInt, zero] at shown
  simp only [List.append_nil, List.append_assoc] at shown
  exact ⟨_, by rw [write, s.pieces_ofInt, shown]⟩

/-- Copies of an explicit fill stand around the digits, behind the lead. -/
theorem write_filled {c : Char} {align : Align} (margin : s.margin = .filled c align) (n : Int) :
    ∃ i j, s.write m (.ofInt n) = s.sign.text (n < 0) ++
      (s.marker ++ (List.replicate i c ++ s.integral m.spacing n.natAbs ++
        List.replicate j c)) := by
  have law := s.margin.pad_padded m.width (s.pieces m (.ofInt n))
  have shown := law.filled (by rw [margin]; rfl)
  have own : s.margin.fill = c := by rw [margin]; rfl
  rw [s.pieces_ofInt, own] at shown
  simp only [List.append_nil, List.append_assoc] at shown
  exact ⟨_, _, by rw [write, s.pieces_ofInt, shown, List.append_assoc]⟩

theorem write_plain_injective {align : Align} (margin : s.margin = .plain align) :
    Function.Injective fun n : Int => s.write m (.ofInt n) := by
  intro a b same
  obtain ⟨i, i', left⟩ := write_plain margin (m := m) a
  obtain ⟨j, j', right⟩ := write_plain margin (m := m) b
  have digits (d : Fin s.radix.base) : digitChar s.radix.ten d ≠ ' ' := (s.radix.digitChar_ne d).2.1
  have bare (n : Int) :
      Bare ' ' (s.sign.text (n < 0) ++ (s.marker ++ s.integral m.spacing n.natAbs)) := by
    rw [← List.append_assoc]
    exact (integral_bare digits m.spacing n.natAbs).append (s.lead_ne (n < 0))
  have start (n : Int) : (s.marker ++ s.integral m.spacing n.natAbs).head? ≠ some '-' :=
    marker_append_ne (by decide) (s.integral_head_ne m.spacing n.natAbs)
  have texts := (bare a).eq_of_padded_eq (bare b) (left.symm.trans (same.trans right))
  obtain ⟨negative, rest⟩ := SignRule.eq_of_text_append_eq (start a) (start b) texts
  exact eq_of_negative_of_natAbs negative
    (s.integral_injective m.spacing (List.append_cancel_left rest))

theorem write_zeros_injective {atPoint : Bool} (margin : s.margin = .zeros atPoint) :
    Function.Injective fun n : Int => s.write m (.ofInt n) := by
  intro a b same
  obtain ⟨i, left⟩ := write_zeros margin (m := m) a
  obtain ⟨j, right⟩ := write_zeros margin (m := m) b
  have start (k : Nat) (n : Int) :
      (s.marker ++ (List.replicate k '0' ++ s.integral m.spacing n.natAbs)).head? ≠ some '-' :=
    marker_append_ne (by decide)
      (head?_replicate_append_ne k (by decide) (s.integral_head_ne m.spacing n.natAbs))
  obtain ⟨negative, rest⟩ := SignRule.eq_of_text_append_eq (start i a) (start j b)
    (left.symm.trans (same.trans right))
  exact eq_of_negative_of_natAbs negative
    (eq_of_zeros_append_integral_eq (List.append_cancel_left rest))

theorem write_filled_injective {c : Char} {align : Align} (margin : s.margin = .filled c align)
    (minus : c ≠ '-') (digits : ∀ d : Fin s.radix.base, digitChar s.radix.ten d ≠ c) :
    Function.Injective fun n : Int => s.write m (.ofInt n) := by
  intro a b same
  obtain ⟨i, i', left⟩ := write_filled margin (m := m) a
  obtain ⟨j, j', right⟩ := write_filled margin (m := m) b
  have bare (n : Int) : Bare c (s.integral m.spacing n.natAbs) :=
    integral_bare digits m.spacing n.natAbs
  have start (k k' : Nat) (n : Int) : (s.marker ++ (List.replicate k c ++
      s.integral m.spacing n.natAbs ++ List.replicate k' c)).head? ≠ some '-' := by
    obtain ⟨d, head, _⟩ := s.head?_integral m.spacing n.natAbs
    have digit := s.integral_head_ne m.spacing n.natAbs
    rw [head] at digit
    rw [List.append_assoc]
    refine marker_append_ne (by decide) (head?_replicate_append_ne k minus ?_)
    rw [List.head?_append, head, Option.some_or]
    exact digit
  obtain ⟨negative, rest⟩ := SignRule.eq_of_text_append_eq (start i i' a) (start j j' b)
    (left.symm.trans (same.trans right))
  have texts := (bare a).eq_of_padded_eq (bare b) (List.append_cancel_left rest)
  exact eq_of_negative_of_natAbs negative (s.integral_injective m.spacing texts)

/-- With a fill of its own that could be taken for a minus or a digit two integers may look alike;
with any other padding they never do. -/
theorem write_ofInt_injective
    (fill : ∀ c a, s.margin = .filled c a →
      c ≠ '-' ∧ ∀ d : Fin s.radix.base, digitChar s.radix.ten d ≠ c) :
    Function.Injective fun n : Int => s.write m (.ofInt n) := by
  cases margin : s.margin with
  | plain align => exact write_plain_injective margin
  | zeros atPoint => exact write_zeros_injective margin
  | filled c align =>
    obtain ⟨minus, digits⟩ := fill c align margin
    exact write_filled_injective margin minus digits

end Style

/-- Where width and precision are settled every integer is written, and no two alike. -/
theorem Datum.render_int_injective {s : Style} {given : Datum} {o : Overrides}
    (supplied : given.toOverrides = .ok o) (width : ¬ o.Lacks s .width)
    (precision : ¬ o.Lacks s .precision)
    (fill : ∀ c a, s.margin = .filled c a →
      c ≠ '-' ∧ ∀ d : Fin s.radix.base, digitChar s.radix.ten d ≠ c) :
    ∃ text : Int → String,
      (∀ (value : Datum) (n : Int), value.toPlain false = .ok (.int n) →
        Datum.render (.style s) value given = .ok (text n)) ∧
      Function.Injective text := by
  obtain ⟨m, settled⟩ := Style.measures_of_present width precision
  refine ⟨fun n => String.ofList (s.write m (.ofInt n)), fun value n integer => ?_, ?_⟩
  · rw [render_style supplied, settled, toNumber, integer]
    rfl
  · intro a b same
    exact Style.write_ofInt_injective fill (String.ofList_injective same)

/-- The fill is a digit of another base and the separator one of this base. -/
theorem Datum.render_int_tells_apart :
    let s : Style := { margin := .filled '8' .center, sign := .always, alternate := true,
                       width := .deferred, radix := .octal, separator := .char '7',
                       spacing := ⟨1, by decide⟩ }
    let o : Overrides := { width := some 8, policy := .ifUnset }
    ∃ text : Int → String,
      Datum.render (.style s) (.int (-63)) (.overrides o) = .ok (text (-63)) ∧
        Datum.render (.style s) (.int 63) (.overrides o) = .ok (text 63) ∧
        text (-63) = "-0o88777888" ∧ Function.Injective text := by
  intro s o
  have supplied : (Datum.overrides o).toOverrides = .ok o := rfl
  have fill (c : Char) (a : Align) (filled : s.margin = .filled c a) :
      c ≠ '-' ∧ ∀ d : Fin s.radix.base, digitChar s.radix.ten d ≠ c := by
    cases filled
    decide
  have width : ¬ o.Lacks s .width := nofun
  have precision : ¬ o.Lacks s .precision := nofun
  obtain ⟨text, written, injective⟩ := render_int_injective supplied width precision fill
  have shown : Datum.render (.style s) (.int (-63)) (.overrides o) = .ok "-0o88777888" :=
    render_eq_ok_iff.mpr ⟨{ width := 8, spacing := s.spacing }, .ofInt (-63), rfl, rfl,
      by decide +kernel⟩
  refine ⟨text, written _ _ rfl, written _ _ rfl, ?_, injective⟩
  rw [written _ _ rfl] at shown
  exact Except.ok.inj shown

end Numeral
