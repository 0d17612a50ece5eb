import Phrasebook.Call.Validation
import Phrasebook.Proofs.Options.Reachable
import Phrasebook.Proofs.Pattern.Braces

namespace Phrasebook

/-!
# Placeholders of the notation

* `placeholders_of_admits` — a pattern of the notation `%{name}` finds the one placeholder of a text;
* `placeholders_builtIn_eq_nil` — the built-in one finds nothing in a text without a closing brace.
-/

/-- A pattern of the notation finds the one placeholder of a text, at its start, with its name
    trimmed. -/
theorem placeholders_of_admits {interpolation name rest : String} {p : Pattern}
    (hread : Pattern.read interpolation.toList = .ok p) (hadmits : p.admits name.toList = true)
    (hname : '\x7d' ∉ name.toList) (hrest : '\x7d' ∉ rest.toList) :
    placeholders interpolation ("%\x7b" ++ name ++ "\x7d" ++ rest) =
      [some (String.ofList (Text.trim name.toList))] := by
  have htext : ("%\x7b" ++ name ++ "\x7d" ++ rest).toList =
      '%' :: '\x7b' :: (name.toList ++ '\x7d' :: rest.toList) := by simp
  unfold placeholders
  rw [hread, htext]
  dsimp only
  rw [Pattern.captures_of_admits hadmits hname hrest]
  rfl

/-- The built-in pattern finds no placeholder without a closing brace. -/
theorem placeholders_builtIn_eq_nil {text : String} (h : '\x7d' ∉ text.toList) :
    placeholders builtInValues.interpolationSyntax text = [] := by
  unfold placeholders
  split
  · rename_i p hread
    rw [Pattern.captures_eq_nil_of_admits (Pattern.admits_count_of_read_builtIn hread) h]
    rfl
  · rfl

end Phrasebook
