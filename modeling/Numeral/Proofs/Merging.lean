import Numeral.Proofs.Records

namespace Numeral

theorem Datum.orElse_of_ne_unset {d : Datum} (given : d ≠ .unset) (other : Datum) :
    d.orElse other = d := by
  cases d with
  | unset => exact absurd rfl given
  | _ => rfl

theorem Datum.orElse_assoc (c b a : Datum) : (c.orElse b).orElse a = c.orElse (b.orElse a) := by
  cases c <;> rfl

theorem Datum.orElse_ne_unset {d : Datum} (given : d ≠ .unset) (other : Datum) :
    d.orElse other ≠ .unset := by
  rw [orElse_of_ne_unset given]
  exact given

namespace Patch

variable {p : Patch} {field : Field}

theorem normal_of_ne_mode (other : field ≠ .mode) : p.normal field = p field := by
  cases field with
  | mode => exact absurd rfl other
  | _ => rfl

theorem normal_mode_of_not_fill (fill : p .fill = .unset) : p.normal .mode = p .mode := by
  simp only [normal, fill]

theorem normal_mode_of_fill (fill : p .fill ≠ .unset) :
    p.normal .mode = (p .mode).orElse (.str PadMode.filled.text) := by
  simp only [normal]
  split
  · next without => exact absurd without fill
  · next without _ => rw [without]; rfl
  · next _ given => exact (Datum.orElse_of_ne_unset given _).symm

/-- Two patches in one: each with the mode that its fill brings, the second over the first. -/
def andThen (a b : Patch) : Patch :=
  fun field => (b.normal field).orElse (a.normal field)

theorem normal_fill (p : Patch) : p.normal .fill = p .fill :=
  rfl

/-- A patch that names a mode with its fill is normal. -/
theorem normal_eq_self {p : Patch} (moded : p .fill ≠ .unset → p .mode ≠ .unset) :
    p.normal = p := by
  funext field
  by_cases mode : field = .mode
  · subst mode
    by_cases fill : p .fill = .unset
    · exact normal_mode_of_not_fill fill
    · rw [normal_mode_of_fill fill, Datum.orElse_of_ne_unset (moded fill)]
  · exact normal_of_ne_mode mode

theorem normal_moded (p : Patch) (fill : p .fill ≠ .unset) : p.normal .mode ≠ .unset := by
  rw [normal_mode_of_fill fill]
  by_cases mode : p .mode = .unset
  · rw [mode]
    nofun
  · exact Datum.orElse_ne_unset mode _

/-- Two patches in one need no further mode. -/
theorem normal_andThen (a b : Patch) : (a.andThen b).normal = a.andThen b := by
  refine normal_eq_self fun fill => ?_
  by_cases later : b .fill = .unset
  · have earlier : a .fill ≠ .unset := by
      intro none
      rw [andThen, normal_fill, normal_fill, later, none] at fill
      exact fill rfl
    have mode := a.normal_moded earlier
    by_cases given : b.normal .mode = .unset
    · rw [andThen, given]
      exact mode
    · exact Datum.orElse_ne_unset given _
  · exact Datum.orElse_ne_unset (b.normal_moded later) _

/-- Patching twice is patching with both in one. -/
theorem patched_andThen (a b : Patch) (d : Draft) :
    (d.patched a.normal).patched b.normal = d.patched (a.andThen b).normal := by
  funext field
  rw [normal_andThen]
  exact (Datum.orElse_assoc _ _ _).symm

end Patch

/-- Whether a field holds a number. Then a number of a derived kind is as good as a plain one. -/
def Field.isNumber : Field → Bool
  | .width | .precision | .spacing => true
  | _ => false

namespace Draft

variable {d e : Draft} {field : Field} {p : Patch}

theorem patched_of_unset (without : p field = .unset) (d : Draft) :
    d.patched p field = d field := by
  rw [patched, without]
  rfl

theorem patched_of_ne_unset (given : p field ≠ .unset) (d : Draft) : d.patched p field = p field :=
  Datum.orElse_of_ne_unset given _

theorem count_congr (same : d field = e field) : d.count field = e.count field := by
  unfold count
  rw [same]

theorem spacing_congr (same : d .spacing = e .spacing) : d.spacing = e.spacing := by
  unfold spacing
  rw [same]

/-- What a draft makes depends on its numbers and on the data of its other fields. -/
theorem toStyle_congr (data : ∀ field : Field, field.isNumber = false → d field = e field)
    (width : d.count .width = e.count .width) (precision : d.count .precision = e.count .precision)
    (spacing : d.spacing = e.spacing) : d.toStyle = e.toStyle := by
  simp only [toStyle, choice, flag, char, separator, data .fill rfl, data .align rfl,
    data .sign rfl, data .alternate rfl, data .mode rfl, data .radix rfl, data .separator rfl,
    data .point rfl, width, precision, spacing]

theorem count_patched {n : Setting Nat} (first : (d field).Counts n) (second : (e field).Counts n)
    (p : Patch) : (d.patched p).count field = (e.patched p).count field := by
  by_cases without : p field = .unset
  · rw [count_congr (patched_of_unset without d), count_congr (patched_of_unset without e),
      count_eq_ok_iff.mpr first, count_eq_ok_iff.mpr second]
  · exact count_congr ((patched_of_ne_unset without d).trans (patched_of_ne_unset without e).symm)

theorem spacing_patched {n : Spacing} (first : (d .spacing).int? = some (n.size : Int))
    (second : (e .spacing).int? = some (n.size : Int)) (p : Patch) :
    (d.patched p).spacing = (e.patched p).spacing := by
  by_cases without : p .spacing = .unset
  · rw [spacing_congr (patched_of_unset without d), spacing_congr (patched_of_unset without e),
      spacing_eq_ok_iff.mpr first, spacing_eq_ok_iff.mpr second]
  · exact spacing_congr ((patched_of_ne_unset without d).trans (patched_of_ne_unset without e).symm)

namespace States

variable {s : Style}

/-- Drafts of one style differ in nothing but the kinds of their numbers. -/
theorem eq_of_not_isNumber (first : d.States s) (second : e.States s)
    (data : field.isNumber = false) : d field = e field := by
  cases field with
  | fill => exact first.fill.trans second.fill.symm
  | align => exact first.align.trans second.align.symm
  | sign => exact first.sign.trans second.sign.symm
  | alternate => exact first.alternate.trans second.alternate.symm
  | mode => exact first.mode.trans second.mode.symm
  | radix => exact first.radix.trans second.radix.symm
  | separator => exact first.separator.trans second.separator.symm
  | point => exact first.point.trans second.point.symm
  | width | precision | spacing => cases data

/-- The same changes make the same style of them, or fail with the same error. -/
theorem toStyle_patched (first : d.States s) (second : e.States s) (p : Patch) :
    (d.patched p).toStyle = (e.patched p).toStyle := by
  refine toStyle_congr (fun field data => ?_) (count_patched first.width second.width p)
    (count_patched first.precision second.precision p)
    (spacing_patched first.spacing second.spacing p)
  rw [patched, patched, first.eq_of_not_isNumber second data]

end States

end Draft

/-- Two merges one after the other come to one merge of both patches, the second over the first,
each with the mode that its fill brings: both make the same style or fail with the same error. The
same goes for records. -/
theorem Style.merge_merge (a b : Patch) :
    (∀ s t : Style, s.merge a = .ok t → t.merge b = s.merge (a.andThen b)) ∧
    ∀ r t : Record, r.merge a = .ok t → t.merge b = r.merge (a.andThen b) := by
  refine ⟨fun s t merged => ?_, fun r t merged => ?_⟩
  · have states := Draft.toStyle_eq_ok_iff.mp merged
    rw [merge, merge, ← Patch.patched_andThen]
    exact t.states_toDraft.toStyle_patched states b.normal
  · have same := (Draft.toRecord_eq_ok_iff.mp merged).2
    rw [Record.merge, Record.merge, ← Patch.patched_andThen, same]

/-- A fill in the second patch brings its mode in place of the one in the first, so that it does not
do simply to lay the second over the first. A mode in the second stands in place of the one that a
fill in the first brings. A sign that is none is refused in the same way. -/
theorem Style.merge_merge_moded :
    let s : Style := { width := .fixed 3 }
    let zeros : Patch
      | .fill => .char '0'
      | .mode => .str PadMode.zeros.text
      | .width => .intLike "Wide" 7
      | _ => .unset
    let heart : Patch
      | .fill => .char '🖤'
      | _ => .unset
    let bad : Patch
      | .sign => .int 1
      | _ => .unset
    s.merge (zeros.andThen heart) = .ok { margin := .filled '🖤' .right, width := .fixed 7 } ∧
      s.merge (heart.andThen zeros) = .ok { margin := .zeros false, width := .fixed 7 } ∧
      s.merge (Draft.patched zeros heart) = .error (.zerosWithFill '🖤') ∧
      s.merge (zeros.andThen bad) = .error (.wrongKind .sign (.int 1)) := by
  intro s zeros heart bad
  have zeroed : s.merge zeros = .ok { margin := .zeros false, width := .fixed 7 } :=
    Draft.toStyle_eq_ok_iff.mpr ⟨rfl, rfl, rfl, rfl, rfl, rfl, rfl, rfl, rfl, rfl, rfl⟩
  have filled : s.merge heart = .ok { margin := .filled '🖤' .right, width := .fixed 3 } :=
    Draft.toStyle_eq_ok_iff.mpr ⟨rfl, rfl, rfl, rfl, rfl, rfl, rfl, rfl, rfl, rfl, rfl⟩
  refine ⟨?_, ?_, ?_, ?_⟩
  · rw [← (merge_merge zeros heart).1 s _ zeroed]
    exact Draft.toStyle_eq_ok_iff.mpr ⟨rfl, rfl, rfl, rfl, rfl, rfl, rfl, rfl, rfl, rfl, rfl⟩
  · rw [← (merge_merge heart zeros).1 s _ filled]
    exact Draft.toStyle_eq_ok_iff.mpr ⟨rfl, rfl, rfl, rfl, rfl, rfl, rfl, rfl, rfl, rfl, rfl⟩
  · dsimp +zetaDelta only
    rfl
  · rw [← (merge_merge zeros bad).1 s _ zeroed]
    dsimp +zetaDelta only
    rfl

end Numeral
