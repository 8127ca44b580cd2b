import Numeral.Datum.Writing
import Numeral.Draft.Setter

namespace Numeral

/-- Work in progress on one style: the style, a draft of the next one, and the values to supply. -/
structure Session where
  style : Style := {}
  draft : Draft := .initial
  overrides : Overrides := {}

inductive Step where
  | parse (pattern : Datum)
  | build
  | merge (patch : Patch)
  | newDraft
  | draftOfStyle
  | draftOf (value : Datum)
  | set (setter : Setter)
  | reread
  | overrides (entries : Overrides.Entries)
  | mergeOverrides (entries : Overrides.Entries)
  | render (value : Datum)
  | renderWith (value : Datum) (supplied : Quantity → Datum)

inductive Answer where
  | style (s : Style)
  | drafted (outcome : Except DraftError Style)
  | reread (equal : Bool) (s : Style)
  | overrides (o : Overrides)
  | text (s : String)

namespace Session

def withStyle (session : Session) (s : Style) : Session × Answer :=
  ({ session with style := s }, .style s)

/-- Replaces the draft and answers what it would build, which has to be a style. -/
def withDraft (session : Session) (d : Draft) : Except Failure (Session × Answer) :=
  (d.toStyle.mapError .draft).map fun s => ({ session with draft := d }, .style s)

def withOverrides (session : Session) (o : Overrides) : Session × Answer :=
  ({ session with overrides := o }, .overrides o)

/-- One step. A step that fails has no session, so that the one before it goes on. What the draft
would build after a change is part of the answer. -/
def step (session : Session) : Step → Except Failure (Session × Answer)
  | .parse pattern => pattern.parse.map session.withStyle
  | .build => (session.draft.toStyle.mapError .draft).map session.withStyle
  | .merge patch => ((session.style.merge patch).mapError .draft).map session.withStyle
  | .newDraft => session.withDraft .initial
  | .draftOfStyle => session.withDraft session.style.toDraft
  | .draftOf value => (value.toStyle.mapError .argument).bind (session.withDraft ·.toDraft)
  | .set setter =>
    match setter.fault? with
    | some fault => .error (.conversion (.fault fault))
    | none =>
      let d := session.draft.apply setter
      .ok ({ session with draft := d }, .drafted d.toStyle)
  | .reread =>
    (session.style.canonical.mapError .inexpressible).bind fun text =>
      ((Style.parse text).mapError .pattern).map fun s =>
        (session, .reread (s = session.style) s)
  | .overrides entries =>
    ((Overrides.ofEntries entries).mapError .overrides).map session.withOverrides
  | .mergeOverrides entries =>
    ((session.overrides.merge entries).mapError .overrides).map session.withOverrides
  | .render value =>
    (Datum.renderChecked Unicode.encodable (.style session.style) value .none).map fun s =>
      (session, .text s)
  | .renderWith value supplied =>
    (session.style.renderWith value (.overrides session.overrides) supplied).map fun s =>
      (session, .text s)

end Session

end Numeral
