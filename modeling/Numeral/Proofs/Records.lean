import Numeral.Pattern.Fields
import Numeral.Pattern.Grammar
import Numeral.Proofs.Validity
import Numeral.Session

namespace Numeral

/-- A style as it is kept after its fields were checked: four members of enumerations, and the data
of the other fields as they were given. The type says nothing about whether these are in order. -/
structure Record where
  fill : Datum
  align : Align
  sign : SignRule
  alternate : Datum
  mode : PadMode
  width : Datum
  precision : Datum
  radix : Radix
  separator : Datum
  spacing : Datum
  point : Datum

namespace Record

/-- The fields of a record as data. -/
def toDraft (r : Record) : Draft
  | .fill => r.fill
  | .align => .char r.align.char
  | .sign => .char r.sign.char
  | .alternate => r.alternate
  | .mode => .str r.mode.text
  | .width => r.width
  | .precision => r.precision
  | .radix => .char r.radix.code
  | .separator => r.separator
  | .spacing => r.spacing
  | .point => r.point

/-- The fields of a draft, with members in place of their texts. -/
def keep (d : Draft) (s : Style) : Record where
  fill := d .fill
  align := s.margin.align
  sign := s.sign
  alternate := d .alternate
  mode := s.margin.mode
  width := d .width
  precision := d .precision
  radix := s.radix
  separator := d .separator
  spacing := d .spacing
  point := d .point

theorem toDraft_keep {d : Draft} {s : Style} (states : d.States s) : (keep d s).toDraft = d := by
  funext field
  cases field with
  | align => exact states.align.symm
  | sign => exact states.sign.symm
  | mode => exact states.mode.symm
  | radix => exact states.radix.symm
  | fill | alternate | width | precision | separator | spacing | point => rfl

theorem keep_toDraft {r : Record} {s : Style} (states : r.toDraft.States s) :
    keep r.toDraft s = r := by
  have align : s.margin.align = r.align := Align.char_inj.mp (Datum.char_inj.mp states.align.symm)
  have sign : s.sign = r.sign := SignRule.char_inj.mp (Datum.char_inj.mp states.sign.symm)
  have mode : s.margin.mode = r.mode := PadMode.text_inj.mp (Datum.str.inj states.mode.symm)
  have radix : s.radix = r.radix := Radix.code_inj.mp (Datum.char_inj.mp states.radix.symm)
  simp only [keep, align, sign, mode, radix, toDraft]

end Record

/-- Checks the fields of a draft and keeps them as a record. -/
def Draft.toRecord (d : Draft) : Except DraftError Record :=
  d.toStyle.map (Record.keep d)

/-- A draft is made a record exactly if its fields are in order. The record has the same fields. -/
theorem Draft.toRecord_eq_ok_iff {d : Draft} {r : Record} :
    d.toRecord = .ok r ↔ d.Valid ∧ r.toDraft = d := by
  unfold toRecord
  constructor
  · intro made
    cases read : d.toStyle with
    | error e => rw [read] at made; cases made
    | ok s =>
      rw [read] at made
      cases made
      have states := toStyle_eq_ok_iff.mp read
      exact ⟨states.valid, Record.toDraft_keep states⟩
  · rintro ⟨valid, rfl⟩
    obtain ⟨s, states⟩ := valid_iff.mp valid
    rw [toStyle_eq_ok_iff.mpr states, Except.map, Record.keep_toDraft states]

theorem Draft.exists_toRecord_iff {d : Draft} : (∃ r, d.toRecord = .ok r) ↔ d.Valid := by
  constructor
  · rintro ⟨r, made⟩
    exact (toRecord_eq_ok_iff.mp made).1
  · intro valid
    obtain ⟨s, states⟩ := valid_iff.mp valid
    exact ⟨Record.keep d s, toRecord_eq_ok_iff.mpr ⟨valid, Record.toDraft_keep states⟩⟩

namespace Record

/-- Reads a record from a pattern, by way of the fields that the pattern states. -/
def parse : Datum → Except Failure Record
  | .str s => do
    let p ← (Pattern.read Unicode.classes Digits.limit s.toList).mapError .pattern
    (Draft.initial.patched p.fields).toRecord.mapError .draft
  | d => .error (.argument (.patternNotText d))

/-- Replaces the named fields of a record and checks the outcome. -/
def merge (r : Record) (p : Patch) : Except DraftError Record :=
  (r.toDraft.patched p.normal).toRecord

end Record

/-- Work on one record: the record, and a draft of the next one. -/
structure Worksheet where
  record : Record
  draft : Draft

/-- The ways in which a record is come by, and the changes to the draft that lead to it. -/
inductive Operation where
  | parse (pattern : Datum)
  | merge (patch : Patch)
  | newDraft
  | draftOfRecord
  | set (setter : Setter)
  | build

namespace Worksheet

def withRecord (w : Worksheet) (r : Record) : Worksheet :=
  { w with record := r }

/-- One operation. Nothing is known about its arguments. -/
def step (w : Worksheet) : Operation → Except Failure Worksheet
  | .parse pattern => (Record.parse pattern).map w.withRecord
  | .merge patch => ((w.record.merge patch).mapError .draft).map w.withRecord
  | .newDraft => .ok { w with draft := .initial }
  | .draftOfRecord => .ok { w with draft := w.record.toDraft }
  | .set setter =>
    match setter.fault? with
    | some fault => .error (.conversion (.fault fault))
    | none => .ok { w with draft := w.draft.apply setter }
  | .build => (w.draft.toRecord.mapError .draft).map w.withRecord

/-- An operation that fails leaves everything as it is. -/
def next (w : Worksheet) (operation : Operation) : Worksheet :=
  match w.step operation with
  | .ok after => after
  | .error _ => w

def run (w : Worksheet) (operations : List Operation) : Worksheet :=
  operations.foldl next w

end Worksheet

/-- Nothing else goes wrong with a draft. -/
theorem DraftError.kind_eq (e : DraftError) : e.kind = .type ∨ e.kind = .value := by
  cases e with
  | wrongKind => exact Or.inl rfl
  | _ => exact Or.inr rfl

/-- Data that are the same, or that are the same whole number in different kinds. -/
def Datum.Same (d e : Datum) : Prop :=
  d = e ∨ ∃ n : Int, d.int? = some n ∧ e.int? = some n

theorem Datum.isText_of_int? {d : Datum} {n : Int} (number : d.int? = some n) (text : String) :
    d.isText text = false := by
  cases d with
  | str s => cases number
  | _ => rfl

namespace Datum.Same

variable {d e v : Datum}

theorem symm (same : d.Same e) : e.Same d := by
  rcases same with rfl | ⟨n, left, right⟩
  · exact Or.inl rfl
  · exact Or.inr ⟨n, right, left⟩

theorem int?_eq (same : d.Same e) : d.int? = e.int? := by
  rcases same with rfl | ⟨n, left, right⟩
  · rfl
  · exact left.trans right.symm

/-- What is no number is the same as itself alone. -/
theorem eq_of_eq (same : d.Same e) (other : v.int? = Option.none) (stated : d = v) : e = v := by
  rcases same with rfl | ⟨n, left, _⟩
  · exact stated
  · rw [stated, other] at left
    cases left

theorem isText_eq (same : d.Same e) (text : String) : d.isText text = e.isText text := by
  rcases same with rfl | ⟨n, left, right⟩
  · rfl
  · rw [isText_of_int? left, isText_of_int? right]

theorem orElse (same : d.Same e) (v : Datum) : (v.orElse d).Same (v.orElse e) := by
  cases v with
  | unset => exact same
  | _ => exact Or.inl rfl

theorem counts {n : Setting Nat} (same : d.Same e) (counts : d.Counts n) : e.Counts n := by
  cases n with
  | unset => exact same.eq_of_eq rfl counts
  | deferred => exact same.eq_of_eq rfl counts
  | fixed n => exact same.int?_eq.symm.trans counts

end Datum.Same

theorem Datum.Counts.same_toDatum {d : Datum} {n : Setting Nat} (counts : d.Counts n) :
    d.Same n.toDatum := by
  cases n with
  | unset => exact Or.inl counts
  | deferred => exact Or.inl counts
  | fixed n => exact Or.inr ⟨n, counts, rfl⟩

/-- Drafts with the same data in all fields. -/
def Draft.Alike (d e : Draft) : Prop :=
  ∀ field, (d field).Same (e field)

theorem Draft.States.alike {d : Draft} {s : Style} (states : d.States s) : d.Alike s.toDraft := by
  intro field
  cases field with
  | fill => exact Or.inl states.fill
  | align => exact Or.inl states.align
  | sign => exact Or.inl states.sign
  | alternate => exact Or.inl states.alternate
  | mode => exact Or.inl states.mode
  | width => exact states.width.same_toDatum
  | precision => exact states.precision.same_toDatum
  | radix => exact Or.inl states.radix
  | separator => exact Or.inl states.separator
  | spacing => exact Or.inr ⟨s.spacing.size, states.spacing, rfl⟩
  | point => exact Or.inl states.point

/-- A record and a style come about together, and then the record states the style. -/
inductive Record.Agrees {ε ε' : Type} : Except ε Record → Except ε' Style → Prop
  | ok {r : Record} {s : Style} : r.toDraft.States s → Agrees (.ok r) (.ok s)
  | error {a : ε} {b : ε'} : Agrees (.error a) (.error b)

theorem Record.Agrees.mapError {ε ε' φ φ' : Type} {x : Except ε Record} {y : Except ε' Style}
    (agrees : Agrees x y) (f : ε → φ) (g : ε' → φ') : Agrees (x.mapError f) (y.mapError g) := by
  cases agrees with
  | ok states => exact .ok states
  | error => exact .error

namespace Draft.Alike

variable {d e : Draft} {s : Style}

theorem refl (d : Draft) : d.Alike d :=
  fun _ => Or.inl rfl

theorem symm (alike : d.Alike e) : e.Alike d :=
  fun field => (alike field).symm

theorem states (alike : d.Alike e) (states : d.States s) : e.States s where
  fill := (alike .fill).eq_of_eq rfl states.fill
  align := (alike .align).eq_of_eq rfl states.align
  sign := (alike .sign).eq_of_eq rfl states.sign
  alternate := (alike .alternate).eq_of_eq rfl states.alternate
  mode := (alike .mode).eq_of_eq rfl states.mode
  width := (alike .width).counts states.width
  precision := (alike .precision).counts states.precision
  radix := (alike .radix).eq_of_eq rfl states.radix
  separator := (alike .separator).eq_of_eq (by cases s.separator <;> rfl) states.separator
  spacing := (alike .spacing).int?_eq.symm.trans states.spacing
  point := (alike .point).eq_of_eq rfl states.point

theorem set {v w : Datum} (alike : d.Alike e) (field : Field) (same : v.Same w) :
    (d.set field v).Alike (e.set field w) := by
  intro other
  unfold Draft.set
  split
  · exact same
  · exact alike other

theorem patched (alike : d.Alike e) (p : Patch) : (d.patched p).Alike (e.patched p) :=
  fun field => (alike field).orElse (p field)

theorem engageZeros (alike : d.Alike e) : d.engageZeros.Alike e.engageZeros := by
  unfold Draft.engageZeros
  refine ((alike.set .fill (Or.inl rfl)).set .align ?_).set .mode (Or.inl rfl)
  rw [(alike .align).isText_eq]
  split
  · exact alike .align
  · exact Or.inl rfl

theorem clearZeros (alike : d.Alike e) : d.clearZeros.Alike e.clearZeros := by
  unfold Draft.clearZeros
  rw [(alike .mode).isText_eq]
  split
  · exact (alike.set .fill (Or.inl rfl)).set .mode (Or.inl rfl)
  · exact alike

theorem apply (alike : d.Alike e) (setter : Setter) : (d.apply setter).Alike (e.apply setter) := by
  cases setter with
  | fill c => exact (alike.set .fill (Or.inl rfl)).set .mode (Or.inl rfl)
  | zero flag =>
    simp only [Draft.apply]
    split
    · exact alike.engageZeros
    · exact alike.clearZeros
    · exact alike
  | _ => exact alike.set _ (Or.inl rfl)

/-- Of drafts with the same data, one makes a record exactly if the other makes a style. -/
theorem toRecord_agrees (alike : d.Alike e) : Record.Agrees d.toRecord e.toStyle := by
  cases made : d.toRecord with
  | ok r =>
    obtain ⟨valid, same⟩ := Draft.toRecord_eq_ok_iff.mp made
    obtain ⟨s, states⟩ := Draft.valid_iff.mp valid
    rw [Draft.toStyle_eq_ok_iff.mpr (alike.states states)]
    exact .ok (same ▸ states)
  | error a =>
    cases read : e.toStyle with
    | error b => exact .error
    | ok s =>
      have states := alike.symm.states (Draft.toStyle_eq_ok_iff.mp read)
      obtain ⟨r, ok⟩ := Draft.exists_toRecord_iff.mpr states.valid
      rw [made] at ok
      cases ok

end Draft.Alike

theorem Record.parse_agrees (pattern : Datum) : Agrees (Record.parse pattern) pattern.parse := by
  cases pattern with
  | str text =>
    simp only [Record.parse, Datum.parse, Style.parse]
    cases read : Pattern.read Unicode.classes Digits.limit text.toList with
    | error e => exact .error
    | ok p =>
      obtain ⟨wf, _⟩ := Pattern.scan_sound (Pattern.read_eq_ok_iff.mp read)
      simp only [Except.mapError_ok, bind, Except.bind, Pattern.patched_fields wf]
      have agrees := (Draft.Alike.refl p.style.toDraft).toRecord_agrees
      rw [Style.toStyle_toDraft] at agrees
      exact agrees.mapError Failure.draft Failure.draft
  | _ => exact .error

/-- The same operation in a session. -/
def Operation.toStep : Operation → Step
  | .parse pattern => .parse pattern
  | .merge patch => .merge patch
  | .newDraft => .newDraft
  | .draftOfRecord => .draftOfStyle
  | .set setter => .set setter
  | .build => .build

namespace Session

/-- A step that fails leaves everything as it is. -/
def next (session : Session) (step : Step) : Session :=
  match session.step step with
  | .ok (after, _) => after
  | .error _ => session

def run (session : Session) (steps : List Step) : Session :=
  steps.foldl next session

end Session

namespace Worksheet

variable {w : Worksheet} {session : Session}

/-- A worksheet and a session are about the same style and the same draft. -/
structure Matches (w : Worksheet) (session : Session) : Prop where
  record : w.record.toDraft.States session.style
  draft : w.draft.Alike session.draft

theorem Matches.replace (same : w.Matches session) {x : Except Failure Record}
    {y : Except Failure Style} (agrees : Record.Agrees x y) :
    Matches (match x.map w.withRecord with | .ok after => after | .error _ => w)
      (match y.map session.withStyle with | .ok (after, _) => after | .error _ => session) := by
  cases agrees with
  | ok states => exact ⟨states, same.draft⟩
  | error => exact same

/-- They stay so whatever is done in both. -/
theorem Matches.next (same : w.Matches session) (operation : Operation) :
    (w.next operation).Matches (session.next operation.toStep) := by
  cases operation with
  | parse pattern => exact same.replace (Record.parse_agrees pattern)
  | merge patch =>
    have alike := same.record.alike.patched patch.normal
    exact same.replace (alike.toRecord_agrees.mapError Failure.draft Failure.draft)
  | newDraft => exact ⟨same.record, .refl _⟩
  | draftOfRecord =>
    unfold Worksheet.next Session.next
    simp only [step, Operation.toStep, Session.step, Session.withDraft, Style.toStyle_toDraft]
    exact ⟨same.record, same.record.alike⟩
  | set setter =>
    unfold Worksheet.next Session.next
    simp only [step, Operation.toStep, Session.step]
    cases setter.fault? with
    | some fault => exact same
    | none => exact ⟨same.record, same.draft.apply setter⟩
  | build => exact same.replace (same.draft.toRecord_agrees.mapError Failure.draft Failure.draft)

theorem Matches.run (same : w.Matches session) (operations : List Operation) :
    (w.run operations).Matches (session.run (operations.map Operation.toStep)) := by
  induction operations generalizing w session with
  | nil => exact same
  | cons operation rest ih => exact ih (same.next operation)

end Worksheet

/-- A draft is made a record exactly if its fields are in order, and the record has the same fields. If
they are not, a field holds data of a wrong kind or a wrong value. Whatever is done with a record and
a draft after that, in whatever order and with whatever arguments, each record that comes of it is in
order, and it is that of the style to which the same operations lead in a session. -/
theorem Worksheet.run_valid :
    (∀ d : Draft, ((∃ r, d.toRecord = .ok r) ↔ d.Valid) ∧
      (∀ r, d.toRecord = .ok r → r.toDraft = d) ∧
      (¬ d.Valid → ∃ e, d.toRecord = .error e ∧ (e.kind = .type ∨ e.kind = .value))) ∧
    ∀ (d : Draft) (s : Style), d.toStyle = .ok s →
      d.toRecord = .ok (Record.keep d s) ∧
      ∀ (draft : Draft) (operations : List Operation),
        let w := ({ record := Record.keep d s, draft } : Worksheet).run operations
        let session := ({ style := s, draft } : Session).run (operations.map Operation.toStep)
        w.record.toDraft.Valid ∧ w.record.toDraft.toStyle = .ok session.style := by
  refine ⟨fun d => ⟨Draft.exists_toRecord_iff, fun r made => ?_, fun invalid => ?_⟩,
    fun d s read => ⟨?_, fun draft operations => ?_⟩⟩
  · exact (Draft.toRecord_eq_ok_iff.mp made).2
  · cases made : d.toRecord with
    | ok r => exact absurd (Draft.exists_toRecord_iff.mp ⟨r, made⟩) invalid
    | error e => exact ⟨e, rfl, e.kind_eq⟩
  · rw [Draft.toRecord, read]
    rfl
  · have states := Draft.toStyle_eq_ok_iff.mp read
    have same : Matches ⟨Record.keep d s, draft⟩ { style := s, draft } :=
      ⟨Record.toDraft_keep states ▸ states, .refl draft⟩
    have after := (same.run operations).record
    exact ⟨after.valid, Draft.toStyle_eq_ok_iff.mpr after⟩

/-- Zeros that are aligned on the left and a pattern of two zeros are refused and leave no trace in
the record. The fill that comes last is an explicit one, and the width is still of its own kind. -/
theorem Worksheet.run_after_refusals :
    let fields : Draft := Draft.initial.patched fun
      | .width => .intLike "Wide" 7
      | _ => .unset
    let operations : List Operation :=
      [.set (.zero (.bool true)), .set (.align (.char '<')), .build, .parse (.str "00"),
        .merge fun
          | .fill => .char '🖤'
          | _ => .unset]
    let w := ({ record := Record.keep fields { width := .fixed 7 }, draft := .initial } :
      Worksheet).run operations
    w.record.toDraft.Valid ∧
      w.record.toDraft.toStyle = .ok { margin := .filled '🖤' .right, width := .fixed 7 } := by
  intro fields operations w
  have read : fields.toStyle = .ok { width := .fixed 7 } :=
    Draft.toStyle_eq_ok_iff.mpr ⟨rfl, rfl, rfl, rfl, rfl, rfl, rfl, rfl, rfl, rfl, rfl⟩
  have style : (({ style := { width := .fixed 7 }, draft := .initial } : Session).run
      (operations.map Operation.toStep)).style =
        { margin := .filled '🖤' .right, width := .fixed 7 } := by
    decide +kernel
  obtain ⟨_, follows⟩ := Worksheet.run_valid.2 fields _ read
  obtain ⟨valid, same⟩ := follows .initial operations
  rw [style] at same
  exact ⟨valid, same⟩

end Numeral
