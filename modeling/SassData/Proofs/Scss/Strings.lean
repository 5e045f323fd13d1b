import SassData.Proofs.Json.RoundTrip
import SassData.Proofs.Scss.Atoms

namespace SassData.Scss

theorem printString_eq_self_iff {s : List Char} : printString s = s ↔ isLiteral s := by
  constructor
  · intro h
    rw [← h]
    exact isLiteral_printString s
  · exact printString_eq_self

theorem toList_literal (s : String) : (literal (.str s)).toList = printString s.toList :=
  String.toList_ofList

theorem parse?_literal {s : String} (hs : ¬ isBareLiteral s) : Json.parse? (literal (.str s)) = some (.str s) := by
  rw [Json.parse?, toList_literal, printString_quoted hs]
  have hlimits : (Json.str s).InLimits := trivial
  exact Json.read?_write .unicode hlimits

/-- Printing a string gives a literal, and changes the string only if it is none; then it can be read from the text, so
that no two strings that are no literals are printed alike. -/
theorem literal_str_projection (s : String) :
    isBareLiteral (literal (.str s)) ∧ literal (.str (literal (.str s))) = literal (.str s) ∧
      (literal (.str s) = s ↔ isBareLiteral s) ∧
      (¬ isBareLiteral s → Json.parse? (literal (.str s)) = some (.str s)) ∧
      ∀ t, ¬ isBareLiteral s → ¬ isBareLiteral t → literal (.str s) = literal (.str t) → s = t := by
  have hself (r : String) : literal (.str r) = r ↔ isBareLiteral r := by
    rw [← String.toList_inj, toList_literal, printString_eq_self_iff, isBareLiteral]
  have hliteral : isBareLiteral (literal (.str s)) := by
    rw [isBareLiteral, toList_literal]
    exact isLiteral_printString s.toList
  refine ⟨hliteral, (hself _).mpr hliteral, hself s, parse?_literal, ?_⟩
  intro t hs ht h
  have hread := parse?_literal hs
  rw [h, parse?_literal ht] at hread
  exact (Json.str.inj (Option.some.inj hread)).symm

theorem literal_str_projection_quoted :
    (¬ isBareLiteral "\\\"" ∧ Json.parse? (literal (.str "\\\"")) = some (.str "\\\"")) ∧
      ¬ isBareLiteral "\\\\\"" ∧ literal (.str "\\\"") ≠ literal (.str "\\\\\"") := by
  have hs : ¬ isBareLiteral "\\\"" := by decide
  have ht : ¬ isBareLiteral "\\\\\"" := by decide
  obtain ⟨-, -, -, hread, hinj⟩ := literal_str_projection "\\\""
  exact ⟨⟨hs, hread hs⟩, ht, fun h => absurd (hinj _ hs ht h) (by decide)⟩

end SassData.Scss
