import RecordMapper.Proofs.Output.Artefact
import RecordMapper.Proofs.Source.Parts
import RecordMapper.Proofs.Text.Lines
import RecordMapper.Proofs.Validation.OneLine

/-!
# Line breaks of sources

A source is made with line feeds, and then its breaks are written as the configuration has it, so
nothing else of a source depends on that setting. A break that begins with a carriage return is
told from the text around it where the text itself has none.
-/
namespace RecordMapper.Output

open RecordMapper.Config RecordMapper.Source RecordMapper.Text RecordMapper.View

/-- Carriage returns and line feeds are only there together. -/
structure BreaksPaired (cs : List Char) : Prop where
  followed : ∀ before after, cs = before ++ '\r' :: after → after.head? = some '\n'
  preceded : ∀ before after, cs = before ++ '\n' :: after → before.getLast? = some '\r'

namespace BreaksPaired

theorem cons {cs : List Char} {c : Char} (hreturn : c ≠ '\r') (hfeed : c ≠ '\n')
    (h : BreaksPaired cs) : BreaksPaired (c :: cs) where
  followed := by
    rintro (_ | ⟨b, before⟩) after heq
    · exact absurd (List.cons.inj heq).1 hreturn
    · exact h.followed before after (List.cons.inj heq).2
  preceded := by
    rintro (_ | ⟨b, before⟩) after heq
    · exact absurd (List.cons.inj heq).1 hfeed
    · have hlast := h.preceded before after (List.cons.inj heq).2
      rw [List.getLast?_cons, hlast, Option.getD_some]

theorem pair {cs : List Char} (h : BreaksPaired cs) : BreaksPaired ('\r' :: '\n' :: cs) where
  followed := by
    rintro (_ | ⟨b, _ | ⟨d, before⟩⟩) after heq
    · rw [← (List.cons.inj heq).2]
      rfl
    · exact absurd (List.cons.inj (List.cons.inj heq).2).1 (by decide)
    · exact h.followed before after (List.cons.inj (List.cons.inj heq).2).2
  preceded := by
    rintro (_ | ⟨b, _ | ⟨d, before⟩⟩) after heq
    · exact absurd (List.cons.inj heq).1 (by decide)
    · rw [← (List.cons.inj heq).1]
      rfl
    · have hlast := h.preceded before after (List.cons.inj (List.cons.inj heq).2).2
      rw [List.getLast?_cons, List.getLast?_cons, hlast, Option.getD_some, Option.getD_some]

end BreaksPaired

section Breaks

variable {text : String}

theorem breaksPaired_flatMap {cs : List Char} (h : '\r' ∉ cs) :
    BreaksPaired (cs.flatMap fun c => if c = '\n' then ['\r', '\n'] else [c]) := by
  induction cs with
  | nil => exact ⟨by simp, by simp⟩
  | cons c rest ih =>
    have hrest := ih (List.not_mem_of_not_mem_cons h)
    rw [List.flatMap_cons]
    by_cases hfeed : c = '\n'
    · rw [if_pos hfeed]
      exact hrest.pair
    · rw [if_neg hfeed]
      exact hrest.cons (Ne.symm (List.ne_of_not_mem_cons h)) hfeed

theorem breaksPaired_withLineBreak (h : '\r' ∉ text.toList) :
    BreaksPaired (withLineBreak "\r\n" text).toList := by
  rw [toList_withLineBreak]
  exact breaksPaired_flatMap h

/-- Line feeds are put back for the breaks that stand for them. -/
theorem replaceAll_withLineBreak (h : '\r' ∉ text.toList) {b : LineBreak} (hb : b ≠ .lf) :
    replaceAll b.text "\n" (withLineBreak b.text text) = text := by
  have hother : b.text ≠ "\n" := by
    cases b <;> first | exact absurd rfl hb | decide
  have hhead : b.text.toList.head? = some '\r' := by
    cases b <;> first | exact absurd rfl hb | decide
  rw [withLineBreak, if_neg hother, replaceAll, replaceAll, String.toList_ofList,
    String.toList_ofList, replaceFrom_replaceFrom hhead h, String.ofList_toList]

end Breaks

/-- The same table under a configuration that writes its breaks in another way. -/
def TableOutput.withBreak (t : TableOutput) (b : LineBreak) : TableOutput :=
  { t with config := { t.config with lineBreak := b } }

/-- Breaks written in any way stand where the line feeds of the source do. -/
theorem Artefact.source_withBreak (a : Artefact) (t : TableOutput) (b : LineBreak) :
    a.source (t.withBreak b) =
      (a.source (t.withBreak .lf)).map (Option.map (withLineBreak b.text)) := by
  let plain := (t.withBreak .lf).config
  let v := TableView.of plain t.table t.className
  cases a with
  | model =>
    have hmodel (b : LineBreak) : (t.withBreak b).model =
        (modelOf plain v).map fun model => render b.text model.lines := rfl
    rw [source, source, hmodel b, hmodel .lf]
    cases modelOf plain v <;> rfl
  | spec =>
    have hspec (b : LineBreak) : (t.withBreak b).spec =
        (framework? plain).elim (.ok none) fun framework =>
          (placeholderValues plain v).map fun values =>
            some (withLineBreak b.text (substitute values (specBody framework))) := by
      show specSource (t.withBreak b).config t.table t.className = _
      rw [specSource, show framework? (t.withBreak b).config = framework? plain from rfl]
      cases framework? plain <;> rfl
    rw [source, source, hspec b, hspec .lf]
    cases framework? plain with
    | none => rfl
    | some framework => cases placeholderValues plain v <;> rfl
  | arbitrary =>
    have harbitrary (b : LineBreak) : (t.withBreak b).arbitrary =
        v.demandTypes >>= fun _ => (Demand.each ColumnView.demandText v.columns).map fun _ =>
          render b.text (arbitraryHeader plain v ++ [""] ++ arbitraryTrait v ++ [""]) := rfl
    rw [source, source, harbitrary b, harbitrary .lf]
    cases v.demandTypes with
    | error => rfl
    | ok => cases Demand.each ColumnView.demandText v.columns <;> rfl

/-- The sources of a table under all ways to write line breaks. They are made alike, one with line
feeds rewritten into any other, and fail alike. Where the source with line feeds has no carriage
return, it is got back from the others, in which there is no break of another kind. -/
theorem only_breaks_differ (t : TableOutput) (a : Artefact) :
    (∀ b, a.source (t.withBreak b) =
      (a.source (t.withBreak .lf)).map (Option.map (withLineBreak b.text))) ∧
    ∀ text, a.source (t.withBreak .lf) = .ok (some text) → '\r' ∉ text.toList →
      ∃ cr crlf,
        a.source (t.withBreak .cr) = .ok (some cr) ∧
        a.source (t.withBreak .crlf) = .ok (some crlf) ∧
        replaceAll LineBreak.cr.text "\n" cr = text ∧ '\n' ∉ cr.toList ∧
        replaceAll LineBreak.crlf.text "\n" crlf = text ∧ BreaksPaired crlf.toList := by
  refine ⟨a.source_withBreak t, fun text htext hreturn => ?_⟩
  have hsource (b : LineBreak) :
      a.source (t.withBreak b) = .ok (some (withLineBreak b.text text)) := by
    rw [a.source_withBreak t b, htext]
    rfl
  exact ⟨_, _, hsource .cr, hsource .crlf,
    replaceAll_withLineBreak hreturn (by decide), not_mem_withLineBreak (by decide) text,
    replaceAll_withLineBreak hreturn (by decide), breaksPaired_withLineBreak hreturn⟩

theorem only_breaks_differ_of_keyed :
    let t : TableOutput := ⟨.default, Validation.Sample.keyedTable "emp" "id", none⟩
    ∃ text crlf, Artefact.arbitrary.source (t.withBreak .lf) = .ok (some text) ∧
      Artefact.arbitrary.source (t.withBreak .crlf) = .ok (some crlf) ∧
      replaceAll "\r\n" "\n" crlf = text ∧ BreaksPaired crlf.toList := by
  intro t
  obtain ⟨text, htext⟩ : ∃ text, Artefact.arbitrary.source (t.withBreak .lf) = .ok (some text) :=
    exists_eq_ok_some (by decide +kernel)
  have hlines : ∀ line ∈ arbitraryHeader .default (TableView.of .default t.table none) ++ [""] ++
      arbitraryTrait (TableView.of .default t.table none) ++ [""], '\r' ∉ line.toList := by
    decide +kernel
  have hreturn : '\r' ∉ text.toList := by
    obtain ⟨_, hmade, heq⟩ := map_eq_ok_iff.mp
      (show (arbitrarySource .default t.table none).map some = .ok (some text) from htext)
    cases heq
    rw [arbitrarySource_eq_ok hmade]
    exact not_mem_join (by decide) hlines
  obtain ⟨-, crlf, -, hcrlf, -, -, hrestored, hpaired⟩ :=
    (only_breaks_differ t .arbitrary).2 text htext hreturn
  exact ⟨text, crlf, htext, hcrlf, hrestored, hpaired⟩

end RecordMapper.Output
