import Numeral.Proofs.Integers

namespace Numeral

namespace Digits

variable {b : Nat}

/-- Runs of one length are ordered as texts like the numbers that they denote. -/
theorem map_lt_of_value_lt {f : Fin b → Char} (order : ∀ d e, d < e → f d < f e) {ds es : Digits b}
    (length : ds.length = es.length) (less : ds.value < es.value) : ds.map f < es.map f := by
  induction ds generalizing es with
  | nil =>
    obtain rfl := List.length_eq_zero_iff.mp length.symm
    exact absurd less (Nat.lt_irrefl _)
  | cons d ds ih =>
    cases es with
    | nil => cases length
    | cons e es =>
      have shorter : ds.length = es.length := Nat.succ.inj length
      rw [value_cons, value_cons, shorter] at less
      rw [List.map_cons, List.map_cons, List.cons_lt_cons_iff]
      rcases Nat.lt_trichotomy d.val e.val with below | same | above
      · exact Or.inl (order d e below)
      · rw [same] at less
        exact Or.inr ⟨congrArg f (Fin.ext same), ih shorter (by omega)⟩
      · have tail := value_lt es
        have step := Nat.mul_le_mul_right (b ^ es.length) (Nat.succ_le_of_lt above)
        rw [Nat.succ_mul] at step
        omega

/-- The greater of two numbers has as many digits as the other one, or more. -/
theorem length_ofNat_mono (base : 2 ≤ b) {m n : Nat} (less : m < n) :
    (ofNat base m).length ≤ (ofNat base n).length := by
  obtain ⟨d, ds, written, leading⟩ := head_ofNat base (Nat.zero_lt_of_lt less)
  by_cases zero : m = 0
  · rw [zero, ofNat_of_lt base (by omega), written]
    exact Nat.succ_le_succ (Nat.zero_le _)
  · obtain ⟨e, es, written', leading'⟩ := head_ofNat base (Nat.pos_of_ne_zero zero)
    have least : b ^ es.length ≤ m := by
      rw [← value_ofNat base m, written']
      exact pow_le_value leading'
    have most := value_lt (ofNat base n)
    rw [value_ofNat] at most
    have powers := Nat.lt_of_le_of_lt least (Nat.lt_trans less most)
    rw [written', List.length_cons]
    exact (Nat.pow_lt_pow_iff_right (by omega)).mp powers

end Digits

namespace Radix

variable (r : Radix)

/-- Letters come after the ten other digits. -/
theorem digitChar_lt {d e : Fin r.base} (less : d < e) :
    digitChar r.ten d < digitChar r.ten e := by
  revert d e
  cases r <;> decide

theorem utf8Size_digitChar (d : Fin r.base) : (digitChar r.ten d).utf8Size = 1 := by
  revert d
  cases r <;> decide

theorem cost_text (n : Nat) : cost (r.text n) = (r.text n).length := by
  rw [text]
  induction Digits.ofNat r.two_le_base n with
  | nil => rfl
  | cons d ds ih =>
    rw [List.map_cons, cost_cons, ih, r.utf8Size_digitChar, List.length_cons, Nat.add_comm]

theorem length_text_mono {m n : Nat} (less : m < n) : (r.text m).length ≤ (r.text n).length := by
  rw [text, text, List.length_map, List.length_map]
  exact Digits.length_ofNat_mono r.two_le_base less

theorem text_lt {m n : Nat} (length : (r.text m).length = (r.text n).length) (less : m < n) :
    r.text m < r.text n := by
  rw [text, text, List.length_map, List.length_map] at length
  refine Digits.map_lt_of_value_lt (fun _ _ => r.digitChar_lt) length ?_
  rwa [Digits.value_ofNat, Digits.value_ofNat]

end Radix

namespace Style

variable (s : Style) (spacing : Spacing)

/-- The cost of integral digits depends on their number alone, and grows with it. -/
theorem cost_integral (n : Nat) :
    cost (s.integral spacing n) = (s.radix.text n).length +
      ((s.radix.text n).length - 1) / spacing.size * (s.separator.mark?.elim 0 Char.utf8Size) := by
  unfold integral
  cases s.separator.mark? with
  | none => exact s.radix.cost_text n
  | some mark =>
    have separators := @cost_group mark spacing.size (s.radix.text n)
    rw [length_group, Nat.add_mul, s.radix.cost_text] at separators
    simp only [Option.elim_some]
    omega

theorem cost_integral_lt {m n : Nat}
    (fewer : (s.radix.text m).length < (s.radix.text n).length) :
    cost (s.integral spacing m) < cost (s.integral spacing n) := by
  rw [cost_integral, cost_integral]
  refine Nat.add_lt_add_of_lt_of_le fewer (Nat.mul_le_mul_right _ (Nat.div_le_div_right ?_))
  omega

theorem integral_lt {m n : Nat} (length : (s.radix.text m).length = (s.radix.text n).length)
    (less : m < n) : s.integral spacing m < s.integral spacing n := by
  have digits := s.radix.text_lt length less
  unfold integral
  cases s.separator.mark? with
  | none => exact digits
  | some mark => exact group_lt_of_lt length digits

/-- Any digit but zero comes after a zero. -/
theorem zero_lt_integral {n : Nat} (positive : 0 < n) (cs : List Char) :
    '0' :: cs < s.integral spacing n := by
  obtain ⟨d, head, leading⟩ := s.head?_integral spacing n
  obtain ⟨tail, written⟩ := List.head?_eq_some_iff.mp head
  have zero : digitChar s.radix.ten ⟨0, Nat.lt_of_lt_of_le Nat.two_pos s.radix.two_le_base⟩ = '0' :=
    rfl
  rw [written, List.cons_lt_cons_iff, ← zero]
  exact Or.inl (s.radix.digitChar_lt (leading positive))

variable {s} {m : Measures}

/-- A natural number has no minus, and its lead is the same for all of them. -/
theorem pieces_ofNat (s : Style) (m : Measures) (n : Nat) :
    s.pieces m (.ofInt n) =
      { lead := s.sign.text false ++ s.marker, integral := s.integral m.spacing n } := by
  have natural : decide ((n : Int) < 0) = false := decide_eq_false (by omega)
  rw [s.pieces_ofInt, natural, Int.natAbs_natCast]

/-- The zeros fill what lead and digits leave of the width. -/
theorem write_zeros_eq (zeros : s.margin.mode = .zeros) (n : Nat) :
    s.write m (.ofInt n) = (s.sign.text false ++ s.marker) ++
      (List.replicate (m.width - (cost (s.sign.text false ++ s.marker) +
        cost (s.integral m.spacing n))) '0' ++ s.integral m.spacing n) := by
  have other : s.margin.mode ≠ .filled := by rw [zeros]; nofun
  have fill : s.margin.fill = '0' := by
    cases margin : s.margin with
    | zeros => rfl
    | plain | filled => rw [margin] at zeros; cases zeros
  have shown := (s.margin.pad_padded m.width (s.pieces m (.ofInt n))).zeros zeros
  rw [write, shown, Margin.copies, Margin.utf8Size_fill other, fill, Nat.div_one, Margin.counted,
    if_neg other, s.pieces_ofNat]
  simp [cost]

/-- Of two numbers the greater one has more digits, and so fewer zeros in front of its first digit,
or it has as many of both, and separators at the same places. -/
theorem write_zeros_lt (zeros : s.margin.mode = .zeros) {a b : Nat} (less : a < b)
    (within : cost (s.sign.text false ++ s.marker) + cost (s.integral m.spacing b) ≤ m.width) :
    s.write m (.ofInt a) < s.write m (.ofInt b) := by
  rw [write_zeros_eq zeros, write_zeros_eq zeros]
  refine List.append_left_lt ?_
  rcases Nat.lt_or_eq_of_le (s.radix.length_text_mono less) with fewer | same
  · have cheaper := s.cost_integral_lt m.spacing fewer
    obtain ⟨k, zeros⟩ : ∃ k, m.width - (cost (s.sign.text false ++ s.marker) +
        cost (s.integral m.spacing a)) = m.width - (cost (s.sign.text false ++ s.marker) +
          cost (s.integral m.spacing b)) + (k + 1) :=
      ⟨cost (s.integral m.spacing b) - cost (s.integral m.spacing a) - 1, by omega⟩
    rw [zeros, List.replicate_add, List.append_assoc]
    exact List.append_left_lt (s.zero_lt_integral m.spacing (Nat.zero_lt_of_lt less) _)
  · rw [s.cost_integral, s.cost_integral, same]
    exact List.append_left_lt (s.integral_lt m.spacing same less)

end Style

/-- Strings are ordered by their code points. -/
theorem ofList_lt_iff {cs ds : List Char} : String.ofList cs < String.ofList ds ↔ cs < ds := by
  change (String.ofList cs).toList < (String.ofList ds).toList ↔ cs < ds
  rw [String.toList_ofList, String.toList_ofList]

/-- With zeros in front numbers that fit into the width are ordered as texts, by code points,
exactly as they are as numbers, in every base and whatever the separator. -/
theorem Datum.render_zeros_lt_iff {s : Style} {given : Datum} {o : Overrides} {m : Measures}
    (zeros : s.margin.mode = .zeros) (supplied : given.toOverrides = .ok o)
    (settled : s.measures o = .ok m) {a b : Nat} {x y : Datum}
    (first : x.toPlain false = .ok (.int a)) (second : y.toPlain false = .ok (.int b)) :
    ∃ u v out other : String,
      Datum.renderUnpadded s x o = .ok u ∧ Datum.renderUnpadded s y o = .ok v ∧
      Datum.render (.style s) x given = .ok out ∧ Datum.render (.style s) y given = .ok other ∧
      (u.utf8ByteSize ≤ m.width → v.utf8ByteSize ≤ m.width → (a < b ↔ out < other)) := by
  obtain ⟨precision, _, spacing⟩ := Style.measures_eq_ok_iff.mp settled
  have number {z : Datum} {c : Nat} (plain : z.toPlain false = .ok (.int c)) :
      z.toNumber false = .ok (.ofInt c) := by
    rw [toNumber, plain]
    rfl
  have unpadded {z : Datum} {c : Nat} (plain : z.toPlain false = .ok (.int c)) :
      renderUnpadded s z o = .ok (String.ofList
        ((s.sign.text false ++ s.marker) ++ s.integral m.spacing c)) := by
    rw [renderUnpadded_eq precision (number plain), ← spacing, Margin.pad_zero, s.pieces_ofNat,
      Pieces.text, List.append_nil]
  have written {z : Datum} {c : Nat} (plain : z.toPlain false = .ok (.int c)) :
      Datum.render (.style s) z given = .ok (String.ofList (s.write m (.ofInt c))) :=
    render_of_settled supplied settled (number plain)
  refine ⟨_, _, _, _, unpadded first, unpadded second, written first, written second, ?_⟩
  have bytes (c : Nat) :
      (String.ofList (s.sign.text false ++ s.marker ++ s.integral m.spacing c)).utf8ByteSize =
        cost (s.sign.text false ++ s.marker) + cost (s.integral m.spacing c) := by
    rw [← cost_eq_utf8ByteSize, cost_append]
  rw [bytes, bytes, ofList_lt_iff]
  intro within within'
  constructor
  · exact fun less => Style.write_zeros_lt zeros less within'
  · intro less
    rcases Nat.lt_trichotomy a b with below | rfl | above
    · exact below
    · exact absurd less (List.lt_irrefl _)
    · exact absurd less (List.lt_asymm (Style.write_zeros_lt zeros above within))

/-- The greater number has fewer zeros and a separator of two bytes, and so fewer characters. -/
theorem Datum.render_zeros_lt_fewer :
    let s : Style := { margin := .zeros true, sign := .always, alternate := true,
                       width := .fixed 12, radix := .hexLower, separator := .char '·' }
    Datum.render (.style s) (.int 4089) .none = .ok "+0x000000ff9" ∧
      Datum.render (.style s) (.int 4096) .none = .ok "+0x0001·000" ∧
      "+0x000000ff9" < "+0x0001·000" := by
  intro s
  let m : Measures := { width := 12 }
  have supplied : Datum.toOverrides .none = .ok {} := rfl
  have settled : s.measures {} = .ok m := rfl
  have first : Datum.render (.style s) (.int 4089) .none = .ok "+0x000000ff9" :=
    render_given_eq_ok_iff.mpr ⟨{}, m, .ofInt 4089, rfl, rfl, rfl, by decide +kernel⟩
  have second : Datum.render (.style s) (.int 4096) .none = .ok "+0x0001·000" :=
    render_given_eq_ok_iff.mpr ⟨{}, m, .ofInt 4096, rfl, rfl, rfl, by decide +kernel⟩
  obtain ⟨u, v, out, other, atLeft, atRight, left, right, order⟩ :=
    render_zeros_lt_iff (x := .int 4089) (y := .int 4096) rfl supplied settled rfl rfl
  have short : Datum.renderUnpadded s (.int 4089) {} = .ok "+0xff9" :=
    render_eq_ok_iff.mpr ⟨{}, .ofInt 4089, rfl, rfl, by decide +kernel⟩
  have long : Datum.renderUnpadded s (.int 4096) {} = .ok "+0x1·000" :=
    render_eq_ok_iff.mpr ⟨{}, .ofInt 4096, rfl, rfl, by decide +kernel⟩
  obtain rfl := Except.ok.inj (atLeft.symm.trans short)
  obtain rfl := Except.ok.inj (atRight.symm.trans long)
  obtain rfl := Except.ok.inj (left.symm.trans first)
  obtain rfl := Except.ok.inj (right.symm.trans second)
  exact ⟨first, second, (order (by decide +kernel) (by decide +kernel)).mp (by decide)⟩

end Numeral
