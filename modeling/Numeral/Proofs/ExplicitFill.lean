import Numeral.Draft.Lemmas
import Numeral.Proofs.FloatWriting
import Numeral.Proofs.Padding

namespace Numeral

/-- The margin with the same fill and alignment that leaves sign and marker outside the width. -/
def Margin.explicit (m : Margin) : Margin :=
  .filled m.fill m.align

/-- The style with the same fill and alignment that leaves sign and marker outside the width. -/
def Style.explicit (s : Style) : Style :=
  { s with margin := s.margin.explicit }

/-- The patch that names the explicit mode and nothing else. -/
def Patch.explicit : Patch
  | .mode => .str PadMode.filled.text
  | _ => .unset

theorem Style.merge_explicit (s : Style) : s.merge .explicit = .ok s.explicit := by
  have fields : s.toDraft.patched Patch.explicit.normal = s.explicit.toDraft := by
    funext field
    cases field with
    | fill | align | sign | alternate | mode | radix | spacing | point => rfl
    | width | precision | separator => rfl
  rw [merge, fields, toStyle_toDraft]

namespace Margin

variable {m : Margin}

/-- The two margins count alike except for sign and marker. -/
theorem counted_explicit (mode : m.mode ≠ .filled) (p : Pieces) :
    m.counted p = cost p.lead + m.explicit.counted p := by
  have counts : m.explicit.counted p =
      0 + (cost p.integral + if m.align = .decimal then 0 else cost p.tail) := rfl
  rw [counts, counted, if_neg mode, Nat.zero_add]

theorem pad_explicit (m : Margin) (width : Nat) (p : Pieces) :
    m.explicit.pad width p = p.lead ++ m.align.place
      (fillRun m.fill (width - m.explicit.counted p)) (p.integral ++ p.tail) :=
  rfl

/-- Zeros fill as the digit zero does in a width that is greater by sign and marker. -/
theorem pad_explicit_zeros (mode : m.mode = .zeros) (width : Nat) (p : Pieces) :
    m.explicit.pad width p = m.pad (width + cost p.lead) p := by
  have counted := m.counted_explicit (by rw [mode]; nofun) p
  have deficit : width + cost p.lead - m.counted p = width - m.explicit.counted p := by
    rw [counted]
    omega
  cases m with
  | plain | filled => cases mode
  | zeros atPoint =>
    have front (run content : List Char) :
        (Margin.zeros atPoint).align.place run content = run ++ content := by
      cases atPoint <;> rfl
    rw [pad_explicit, front, ← List.append_assoc, ← deficit]
    rfl

/-- Without sign and marker there is nothing that one margin counts and the other does not. -/
theorem pad_explicit_of_lead_eq_nil {p : Pieces} (bare : p.lead = []) (width : Nat) :
    m.explicit.pad width p = m.pad width p := by
  cases m with
  | plain align =>
    have counted := (Margin.plain align).counted_explicit nofun p
    rw [bare, cost, Nat.zero_add] at counted
    rw [pad_explicit, ← counted, bare, List.nil_append]
    show _ = align.place _ (p.lead ++ (p.integral ++ p.tail))
    rw [bare, List.nil_append]
    rfl
  | filled fill align => rfl
  | zeros atPoint =>
    have same : (Margin.zeros atPoint).explicit.pad width p =
        (Margin.zeros atPoint).pad (width + cost p.lead) p := pad_explicit_zeros rfl width p
    rwa [bare] at same

end Margin

/-- Sign and base marker as they stand in front of a number. A number without digits has no marker. -/
def Style.leadFor (s : Style) (n : Number) : List Char :=
  s.sign.text n.negative ++ if n.isFinite then s.marker else []

/-- Filling with zeros and filling with the digit zero differ only in whether sign and base marker
count: a width that is greater by what they cost gives the same text. Where neither is written, the
margins with blanks or zeros and those with the same character as an explicit fill give the same text
at every width and alignment. -/
theorem Datum.render_explicit {s : Style} {o u : Overrides} {m k : Measures} {value : Datum}
    {n : Number} (settled : s.measures o = .ok m) (settled' : s.explicit.measures u = .ok k)
    (precision : k.precision = m.precision) (spacing : k.spacing = m.spacing)
    (number : value.toNumber false = .ok n) :
    s.merge .explicit = .ok s.explicit ∧
    (s.margin.mode = .zeros →
      m.width = k.width + (String.ofList (s.leadFor n)).utf8ByteSize →
      ∃ text, Datum.render (.style s.explicit) value (.overrides u) = .ok text ∧
        Datum.render (.style s) value (.overrides o) = .ok text) ∧
    (s.leadFor n = [] → m.width = k.width →
      ∃ text, Datum.render (.style s.explicit) value (.overrides u) = .ok text ∧
        Datum.render (.style s) value (.overrides o) = .ok text) := by
  have lead : (s.pieces m n).lead = s.leadFor n := s.lead_pieces m n
  have pieces : s.explicit.pieces k n = s.pieces m n := by
    have same : s.pieces k n = s.pieces m n := by
      unfold Style.pieces
      rw [precision, spacing]
    exact same
  have written (same : s.margin.explicit.pad k.width (s.pieces m n) =
      s.margin.pad m.width (s.pieces m n)) :
      ∃ text, Datum.render (.style s.explicit) value (.overrides u) = .ok text ∧
        Datum.render (.style s) value (.overrides o) = .ok text := by
    refine ⟨_, render_of_settled rfl settled' number, ?_⟩
    rw [render_of_settled rfl settled number, Style.write, Style.write, pieces, ← same]
    rfl
  refine ⟨s.merge_explicit, fun mode width => written ?_, fun bare width => written ?_⟩
  · rw [Margin.pad_explicit_zeros mode, width, ← cost_eq_utf8ByteSize, lead]
  · rw [Margin.pad_explicit_of_lead_eq_nil (lead.trans bare), width]

/-- Sign and marker cost three bytes, the separator two. The fraction stands outside both widths. -/
theorem Datum.render_explicit_at_point :
    let s : Style := { margin := .zeros true, sign := .always, alternate := true, width := .deferred,
                       radix := .hexLower, separator := .char '·', point := '€' }
    let x : Datum := .float ⟨0x412579BD00000000⟩
    s.merge .explicit = .ok s.explicit ∧
      Datum.render (.style s.explicit) x (.overrides { width := some 9 }) = .ok "+0x00ab·cde€5" ∧
      Datum.render (.style s) x (.overrides { width := some 12 }) = .ok "+0x00ab·cde€5" := by
  intro s x
  let n : Number := { magnitude := ⟨7037105, 1⟩, isFloat := true }
  have number : x.toNumber false = .ok n :=
    (toNumber_float rfl (Or.inl rfl)).trans (congrArg Except.ok (by decide +kernel))
  have settled : s.measures { width := some 12 } = .ok { width := 12 } := rfl
  have settled' : s.explicit.measures { width := some 9 } = .ok { width := 9 } := rfl
  obtain ⟨merged, follows, _⟩ := render_explicit settled settled' rfl rfl number
  obtain ⟨text, left, right⟩ := follows rfl (by decide +kernel)
  have written : Datum.render (.style s) x (.overrides { width := some 12 }) =
      .ok "+0x00ab·cde€5" :=
    render_eq_ok_iff.mpr ⟨_, n, settled, number, by decide +kernel⟩
  rw [right] at written
  cases written
  exact ⟨merged, left, right⟩

end Numeral
