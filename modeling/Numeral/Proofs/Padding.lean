import Numeral.Decimal.Lemmas
import Numeral.Proofs.Rendering

namespace Numeral

/-- How many of `k` copies of a fill stand in front of what they pad. -/
def Align.ahead (align : Align) (k : Nat) : Nat :=
  match align with
  | .left => 0
  | .center => k / 2
  | .right | .decimal => k

theorem Align.ahead_le (align : Align) (k : Nat) : align.ahead k ≤ k := by
  cases align <;> simp only [ahead] <;> omega

theorem Align.place_replicate (align : Align) (k : Nat) (c : Char) (content : List Char) :
    align.place (List.replicate k c) content =
      List.replicate (align.ahead k) c ++ content ++ List.replicate (k - align.ahead k) c := by
  cases align with
  | left => simp only [place, ahead, List.replicate_zero, List.nil_append, Nat.sub_zero]
  | center =>
    have half : min (k / 2) k = k / 2 := Nat.min_eq_left (Nat.div_le_self k 2)
    simp only [place, ahead, List.length_replicate, List.take_replicate, List.drop_replicate, half]
  | right | decimal =>
    simp only [place, ahead, Nat.sub_self, List.replicate_zero, List.append_nil]

/-- A number without padding. -/
def Pieces.text (p : Pieces) : List Char :=
  p.lead ++ (p.integral ++ p.tail)

namespace Margin

/-- The law of padding: a number with `k` copies of the fill inserted where mode and alignment put
them, and nothing else changed. There are as many copies as the width pays for, which is none if the
counted part reaches the width by itself. -/
structure Padded (m : Margin) (width : Nat) (p : Pieces) (k : Nat) (out : List Char) : Prop where
  plain : m.mode = .plain →
    out = List.replicate (m.align.ahead k) m.fill ++ p.text ++
      List.replicate (k - m.align.ahead k) m.fill
  zeros : m.mode = .zeros → out = p.lead ++ List.replicate k m.fill ++ (p.integral ++ p.tail)
  filled : m.mode = .filled →
    out = p.lead ++ (List.replicate (m.align.ahead k) m.fill ++ (p.integral ++ p.tail) ++
      List.replicate (k - m.align.ahead k) m.fill)
  within : k = 0 ∨
    (String.ofList (m.countedText p)).utf8ByteSize + k * m.fill.utf8Size ≤ width
  most : ∀ j, (String.ofList (m.countedText p)).utf8ByteSize + j * m.fill.utf8Size ≤ width → j ≤ k

/-- The number of copies of the fill that the unused width pays for. -/
def copies (m : Margin) (width : Nat) (p : Pieces) : Nat :=
  (width - m.counted p) / m.fill.utf8Size

theorem cost_fillRun (m : Margin) (width : Nat) (p : Pieces) :
    cost (fillRun m.fill (width - m.counted p)) = m.copies width p * m.fill.utf8Size :=
  cost_replicate _ _

theorem pad_padded (m : Margin) (width : Nat) (p : Pieces) :
    m.Padded width p (m.copies width p) (m.pad width p) where
  plain mode := by
    cases m with
    | plain align => exact align.place_replicate _ _ _
    | filled => cases mode
    | zeros => cases mode
  zeros mode := by
    cases m with
    | plain => cases mode
    | filled => cases mode
    | zeros atPoint => rfl
  filled mode := by
    cases m with
    | plain => cases mode
    | filled c align => exact congrArg (p.lead ++ ·) (align.place_replicate _ _ _)
    | zeros => cases mode
  within := by
    rw [← cost_eq_utf8ByteSize, ← counted_eq]
    have paid := cost_fillRun_le m.fill (width - m.counted p)
    rw [cost_fillRun] at paid
    by_cases room : m.counted p ≤ width
    · right
      omega
    · left
      rw [copies, Nat.sub_eq_zero_of_le (Nat.le_of_not_le room), Nat.zero_div]
  most j fits := by
    rw [← cost_eq_utf8ByteSize, ← counted_eq] at fits
    have more := lt_cost_fillRun_add m.fill (width - m.counted p)
    rw [cost_fillRun, ← Nat.succ_mul] at more
    have fewer : j * m.fill.utf8Size < (m.copies width p).succ * m.fill.utf8Size := by omega
    exact Nat.le_of_lt_succ (Nat.lt_of_mul_lt_mul_right fewer)

/-- Nothing is filled in where the counted part reaches the width by itself. -/
theorem pad_of_le {m : Margin} {width : Nat} {p : Pieces} (full : width ≤ m.counted p) :
    m.pad width p = p.text := by
  have none : fillRun m.fill (width - m.counted p) = [] := by
    rw [Nat.sub_eq_zero_of_le full, fillRun, Nat.zero_div, List.replicate_zero]
  cases m with
  | plain align =>
    simp only [pad, none]
    cases align <;> simp [Align.place, Pieces.text]
  | filled c align =>
    simp only [pad, none]
    cases align <;> simp [Align.place, Pieces.text]
  | zeros atPoint => simp only [pad, none, List.append_nil, Pieces.text]

theorem pad_zero (m : Margin) (p : Pieces) : m.pad 0 p = p.text :=
  pad_of_le (Nat.zero_le _)

/-- Padding adds the cost of the copies and takes nothing away. -/
theorem cost_pad (m : Margin) (width : Nat) (p : Pieces) :
    cost (m.pad width p) = cost p.text + m.copies width p * m.fill.utf8Size := by
  have law := m.pad_padded width p
  have parts := m.align.ahead_le (m.copies width p)
  have split : m.align.ahead (m.copies width p) * m.fill.utf8Size +
      (m.copies width p - m.align.ahead (m.copies width p)) * m.fill.utf8Size =
        m.copies width p * m.fill.utf8Size := by
    rw [← Nat.add_mul, Nat.add_sub_cancel' parts]
  cases mode : m.mode with
  | plain =>
    rw [law.plain mode]
    simp only [cost_append, cost_replicate]
    omega
  | zeros =>
    rw [law.zeros mode]
    simp only [cost_append, cost_replicate, Pieces.text]
    omega
  | filled =>
    rw [law.filled mode]
    simp only [cost_append, cost_replicate, Pieces.text]
    omega

/-- Only an explicit fill can have more than one byte. -/
theorem utf8Size_fill {m : Margin} (mode : m.mode ≠ .filled) : m.fill.utf8Size = 1 := by
  cases m with
  | plain => rfl
  | filled => exact absurd rfl mode
  | zeros => rfl

/-- Where everything counts and the fill has one byte, the width is met exactly. -/
theorem cost_pad_eq_max {m : Margin} (mode : m.mode ≠ .filled) (align : m.align ≠ .decimal)
    (width : Nat) (p : Pieces) : cost (m.pad width p) = max (cost p.text) width := by
  have whole : m.counted p = cost p.text := by
    rw [counted_eq, countedText, if_neg mode, if_neg align]
    rfl
  rw [cost_pad, copies, utf8Size_fill mode, whole, Nat.div_one, Nat.mul_one]
  omega

end Margin

/-- Sign and base marker stand in front; a number without digits has no base marker. -/
theorem Style.lead_pieces (s : Style) (m : Measures) (n : Number) :
    (s.pieces m n).lead = s.sign.text n.negative ++ if n.isFinite then s.marker else [] := by
  unfold pieces Number.isFinite
  cases n.special with
  | none => rfl
  | some special => exact (List.append_nil _).symm

/-- Behind the integral digits stands nothing or the point with at least one digit. -/
theorem Style.tail_pieces (s : Style) (m : Measures) (n : Number) :
    (s.pieces m n).tail = [] ∨
      ∃ fraction : Digits 10, fraction ≠ [] ∧ (s.pieces m n).tail = s.point :: fraction.chars := by
  unfold pieces
  cases n.special with
  | some special => exact Or.inl rfl
  | none =>
    let x := (m.precision.elim n fun p => n.rounded p).magnitude
    by_cases integral : x.places = 0
    · exact Or.inl (if_pos integral)
    · refine Or.inr ⟨x.fraction, fun empty => integral ?_, if_neg integral⟩
      rw [← FixedPoint.length_fraction, empty, List.length_nil]

/-- What is written is the number as it is written without a width, with copies of the fill
inserted, as many as fit. Where everything counts and the fill has one byte, the result is exactly as
wide as asked for, unless the number alone is wider. -/
theorem Datum.render_inserts_fill {s : Style} {o : Overrides} {value : Datum} {out : String}
    (written : Datum.render (.style s) value (.overrides o) = .ok out) :
    ∃ (m : Measures) (n : Number) (k : Nat) (unpadded : String),
      s.measures o = .ok m ∧ value.toNumber false = .ok n ∧
      Datum.renderUnpadded s value o = .ok unpadded ∧
      unpadded.toList = (s.pieces m n).lead ++ ((s.pieces m n).integral ++ (s.pieces m n).tail) ∧
      (s.pieces m n).lead = s.sign.text n.negative ++ (if n.isFinite then s.marker else []) ∧
      ((s.pieces m n).tail = [] ∨ ∃ fraction : Digits 10, fraction ≠ [] ∧
        (s.pieces m n).tail = s.point :: fraction.chars) ∧
      s.margin.Padded m.width (s.pieces m n) k out.toList ∧
      (s.margin.mode ≠ .filled → s.margin.align ≠ .decimal →
        out.utf8ByteSize = max unpadded.utf8ByteSize m.width) := by
  obtain ⟨m, n, settled, number, rfl⟩ := Datum.render_eq_ok_iff.mp written
  obtain ⟨precision, _, spacing⟩ := Style.measures_eq_ok_iff.mp settled
  have alone := Datum.renderUnpadded_eq precision number
  rw [← spacing, Margin.pad_zero] at alone
  have same : s.pieces { precision := m.precision, spacing := m.spacing } n = s.pieces m n := rfl
  rw [same] at alone
  refine ⟨m, n, s.margin.copies m.width (s.pieces m n), _, settled, number, alone,
    String.toList_ofList, s.lead_pieces m n, s.tail_pieces m n, ?_, fun mode align => ?_⟩
  · rw [String.toList_ofList]
    exact s.margin.pad_padded m.width (s.pieces m n)
  · rw [← cost_eq_utf8ByteSize, ← cost_eq_utf8ByteSize]
    exact Margin.cost_pad_eq_max mode align m.width (s.pieces m n)

/-- Twenty bytes take nine of grouped digits and two hearts of four bytes each; the three that are
left pay for no third one. Sign and marker stand outside. -/
theorem Datum.render_inserts_hearts :
    let s : Style := { margin := .filled '🖤' .center, sign := .always, alternate := true,
                       width := .deferred, radix := .hexUpper, separator := .char '·',
                       spacing := ⟨2, by decide⟩ }
    let o : Overrides := { width := some 20 }
    Datum.render (.style s) (.int 703710) (.overrides o) = .ok "+0x🖤A·BC·DE🖤" ∧
      ∃ m n k, s.measures o = .ok m ∧ (Datum.int 703710).toNumber false = .ok n ∧
        s.margin.Padded m.width (s.pieces m n) k "+0x🖤A·BC·DE🖤".toList := by
  intro s o
  have written : Datum.render (.style s) (.int 703710) (.overrides o) = .ok "+0x🖤A·BC·DE🖤" :=
    Datum.render_eq_ok_iff.mpr ⟨{ width := 20, spacing := s.spacing }, .ofInt 703710, rfl, rfl,
      by decide +kernel⟩
  obtain ⟨m, n, k, _, settled, number, _, _, _, _, padded, _⟩ := Datum.render_inserts_fill written
  exact ⟨written, m, n, k, settled, number, padded⟩

end Numeral
