import SassData.DataModule.Thrown
import SassData.Proofs.Text.Trimming

namespace SassData

def onOneLine (s : String) : String :=
  String.ofList ((Text.trimmed s).toList.map fun c => if c = '\n' then ' ' else c)

theorem prefix_onOneLine {n : String} (hn : ∀ c ∈ n.toList, ¬ Text.isBlank c) (s : String) :
    n.toList <+: (onOneLine (n ++ s)).toList := by
  have hself : n.toList.map (fun c => if c = '\n' then ' ' else c) = n.toList := by
    refine (List.map_congr_left fun c hc => ?_).trans (List.map_id _)
    rw [if_neg, id]
    rintro rfl
    exact hn _ hc rfl
  rw [onOneLine, Text.toList_trimmed, String.toList_ofList, String.toList_append, ← hself]
  apply List.IsPrefix.map
  rw [hself]
  exact Text.prefix_trim hn s.toList

namespace Thrown

def titled (e : Thrown) (s : String) : String :=
  if s = "" then e.fullName else e.fullName ++ ": " ++ s

inductive HasWords (e : Thrown) : String → Prop
  | message {m : String} (hm : e.message = some m) (hne : m ≠ "") : HasWords e m
  | missing (hm : e.message = none) : HasWords e "<no detail available>"
  | empty (hm : e.message = some "") : HasWords e "<no detail available>"

/-- What stands behind the name of an exception: its text or, of a syntax error, its words, and the file if the error
names no line of it. -/
inductive Says (e : Thrown) : String → Prop
  | text (h : ∀ place, e.origin ≠ .syntaxError place) : Says e e.text
  | words {place : Place} {w : String} (h : e.origin = .syntaxError place)
      (hplace : place.file = none ∨ place.line ≠ none) (hw : e.HasWords w) : Says e w
  | wordsIn {file w : String} (h : e.origin = .syntaxError ⟨some file, none⟩) (hw : e.HasWords w) :
      Says e (w ++ " (" ++ file ++ ")")

theorem hasWords_words (e : Thrown) : e.HasWords e.words := by
  unfold words
  cases hm : e.message with
  | none => exact .missing hm
  | some m =>
    rw [Option.getD_some]
    split_ifs with hempty
    · exact .empty (by rw [hm, hempty])
    · exact .message hm hempty

theorem says_detail (e : Thrown) : e.Says e.detail := by
  unfold detail
  split
  · next file horigin => exact .wordsIn horigin e.hasWords_words
  · next place hplace horigin =>
    apply Says.words horigin _ e.hasWords_words
    obtain ⟨file, line⟩ := place
    cases file with
    | none => exact .inl rfl
    | some file =>
      cases line with
      | none => exact (hplace file rfl).elim
      | some line => exact .inr nofun
  · next hother => exact .text hother

theorem lastLine_eq_titled {e : Thrown} (he : e.notes = []) : e.lastLine = e.titled e.detail := by
  rw [lastLine, he]
  rfl

theorem summary_eq (e : Thrown) : e.summary = onOneLine e.lastLine := by
  rw [summary, onOneLine, Text.toList_trimmed]

theorem fullName_prefix_summary {e : Thrown} (hname : ∀ c ∈ e.fullName.toList, ¬ Text.isBlank c)
    (hnotes : e.notes = []) : e.fullName.toList <+: e.summary.toList := by
  have htitled : ∃ s, e.titled e.detail = e.fullName ++ s := by
    unfold titled
    split_ifs
    · exact ⟨"", by rw [String.append_empty]⟩
    · exact ⟨": " ++ e.detail, by rw [String.append_assoc]⟩
  obtain ⟨s, hs⟩ := htitled
  rw [summary_eq, lastLine_eq_titled hnotes, hs]
  exact prefix_onOneLine hname s

theorem summary_note {e : Thrown} {note : String} (hnote : e.notes.getLast? = some note) :
    e.summary = Text.trimmed (String.ofList (Text.lastLine note.toList)) := by
  have hline : e.lastLine = String.ofList (Text.lastLine note.toList) := by
    simp only [lastLine, hnote, Text.getLast?_pieces, Option.getD_some]
  have hself : ∀ c ∈ Text.trim (Text.lastLine note.toList), (if c = '\n' then ' ' else c) = c := by
    intro c hc
    rw [if_neg]
    rintro rfl
    exact Text.notMem_lastLine _ (Text.mem_of_mem_trim hc)
  rw [summary, hline, String.toList_ofList, List.map_congr_left hself, List.map_id', Text.trimmed,
    String.toList_ofList]

end Thrown

end SassData
