import IconForge.Svg.Markup
import IconForge.Svg.Reference

/-!
Contract: the escaped form of a text stands for that text.

Owns:
- the characters that an escaped text is free of;
- that the references in an escaped text resolve to what was escaped.

Main statement: `resolve_escaped`.

Does not own: texts that hold other references than the five entities.
-/

namespace IconForge.Svg

open IconForge.Text

/-! ### Characters of an escaped text -/

theorem toList_escape (text : String) : (escape text).toList = text.toList.flatMap escapeChar :=
  String.toList_ofList

theorem escapeChar_plain {c : Char} (notLess : c ≠ '<') (notGreater : c ≠ '>')
    (notAmpersand : c ≠ '&') (notApostrophe : c ≠ '\'') (notQuote : c ≠ '"') :
    escapeChar c = [c] := by
  unfold escapeChar
  split
  · exact absurd rfl notLess
  · exact absurd rfl notGreater
  · exact absurd rfl notAmpersand
  · exact absurd rfl notApostrophe
  · exact absurd rfl notQuote
  · rfl

/-- The characters that give markup its structure. -/
def isMarkupSign (c : Char) : Bool :=
  c == '<' || c == '>' || c == '"' || c == '\''

theorem not_isMarkupSign_of_mem_escapeChar {c member : Char} (isMember : member ∈ escapeChar c) :
    isMarkupSign member = false := by
  unfold escapeChar at isMember
  split at isMember
  case h_6 notLess notGreater _ notApostrophe notQuote =>
    rw [List.mem_singleton.mp isMember]
    simp only [isMarkupSign, Bool.or_eq_false_iff, beq_eq_false_iff_ne]
    exact ⟨⟨⟨notLess, notGreater⟩, notQuote⟩, notApostrophe⟩
  all_goals
    simp only [List.mem_cons, List.not_mem_nil, or_false] at isMember
    rcases isMember with rfl | rfl | rfl | rfl | rfl | rfl <;> rfl

theorem not_isMarkupSign_of_mem_escaped {text : List Char} {member : Char}
    (isMember : member ∈ text.flatMap escapeChar) : isMarkupSign member = false := by
  obtain ⟨c, _, fromChar⟩ := List.mem_flatMap.mp isMember
  exact not_isMarkupSign_of_mem_escapeChar fromChar

/-! ### Resolving -/

theorem resolveFrom_plain (length place : Nat) {c : Char} (rest : List Char)
    (notAmpersand : c ≠ '&') :
    resolveFrom length place (c :: rest) =
      (resolveFrom length (place + c.utf8Size) rest).map (c :: ·) := by
  rw [resolveFrom, if_neg notAmpersand]
  cases resolveFrom length (place + c.utf8Size) rest <;> rfl

theorem resolveFrom_entity (length place : Nat) {c : Char} {text name behind : List Char}
    (cut : cutReference? text = some (name, behind)) (read : readReference place name = .ok c) :
    resolveFrom length place ('&' :: text) =
      (resolveFrom length (place + byteLength name + 2) behind).map (c :: ·) := by
  rw [resolveFrom, if_pos rfl]
  split
  · next noCut =>
    rw [cut] at noCut
    cases noCut
  · next otherName otherBehind otherCut =>
    rw [cut] at otherCut
    cases otherCut
    rw [read]
    cases resolveFrom length (place + byteLength name + 2) behind <;> rfl

theorem resolveFrom_escapeChar (length place : Nat) (c : Char) (rest : List Char) :
    ∃ stop, resolveFrom length place (escapeChar c ++ rest) =
      (resolveFrom length stop rest).map (c :: ·) := by
  by_cases isLess : c = '<'
  · subst isLess
    exact ⟨_, resolveFrom_entity length place rfl rfl⟩
  by_cases isGreater : c = '>'
  · subst isGreater
    exact ⟨_, resolveFrom_entity length place rfl rfl⟩
  by_cases isAmpersand : c = '&'
  · subst isAmpersand
    exact ⟨_, resolveFrom_entity length place rfl rfl⟩
  by_cases isApostrophe : c = '\''
  · subst isApostrophe
    exact ⟨_, resolveFrom_entity length place rfl rfl⟩
  by_cases isQuote : c = '"'
  · subst isQuote
    exact ⟨_, resolveFrom_entity length place rfl rfl⟩
  rw [escapeChar_plain isLess isGreater isAmpersand isApostrophe isQuote]
  exact ⟨_, resolveFrom_plain length place rest isAmpersand⟩

theorem resolveFrom_escaped (length place : Nat) (text : List Char) :
    resolveFrom length place (text.flatMap escapeChar) = .ok text := by
  induction text generalizing place with
  | nil =>
    rw [List.flatMap_nil, resolveFrom]
  | cons c rest inductionHypothesis =>
    obtain ⟨stop, resolved⟩ :=
      resolveFrom_escapeChar length place c (rest.flatMap escapeChar)
    rw [List.flatMap_cons, resolved, inductionHypothesis stop]
    rfl

/-- The references of an escaped text resolve to the text that was escaped. -/
theorem resolve_escaped (text : List Char) : resolve (text.flatMap escapeChar) = .ok text :=
  resolveFrom_escaped _ 0 text

end IconForge.Svg
