import IconForge.Keyed
import IconForge.Proofs.Script.Layout

/-!
Contract: modules of a script that export a map.

Owns:
- reading a module that declares a map from a list of pairs, and exports it;
- that such a module is read back however its list is laid out;
- what a map holds under a key, of several pairs with the key the last.

Main statements: `read?_mapModule`, `mapOfPairs_of_nodup`.

Does not own: what the pairs stand for.
-/

namespace IconForge.Script.Reader

/-- What stands in front of the name that a module declares. -/
def mapPreamble : String :=
  "import * as React from \"react\"\nimport * as SVG from \"react-native-svg\"\n" ++
    "import type \x7b IconVariant \x7d from \"../lib/types\"\n\nconst "

def mapOpening : String := " = new Map<IconVariant, React.ReactElement>("

/-- What stands behind the list of the pairs: the name again, which is
exported. -/
def mapClosing (binding : String) : String := ")\n\nexport default " ++ binding ++ "\n"

/-- A pair as an expression: a list of a text and any expression. -/
def Expression.pair? : Expression → Option (String × Expression)
  | .list [.text key, value] => some (key, value)
  | _ => none

def Expression.pairs? : Expression → Option (List (String × Expression))
  | .list items => items.mapM Expression.pair?
  | _ => none

/-- The identifier that a text starts with, and what is behind it. -/
def Alphabet.cutIdentifier? (alphabet : Alphabet) : List Char → Option (String × List Char)
  | [] => none
  | c :: rest =>
    if alphabet.starts c then
      some (String.ofList (c :: rest.takeWhile alphabet.continues),
        rest.dropWhile alphabet.continues)
    else none

/-- A module that exports a map under the name which it is bound to. -/
structure MapModule where
  binding : String
  pairs : List (String × Expression)

def MapModule.read? (alphabet : Alphabet) (text : String) : Option MapModule := do
  let declaration ← text.toList.dropPrefix? mapPreamble.toList
  let (binding, behind) ← alphabet.cutIdentifier? declaration
  let value ← behind.dropPrefix? mapOpening.toList
  let list ← value.dropSuffix? (mapClosing binding).toList
  let expression ← Expression.read? alphabet (String.ofList list)
  let pairs ← expression.pairs?
  some ⟨binding, pairs⟩

/-- The module of a map from the text of its list. -/
def mapModule (binding list : String) : String :=
  mapPreamble ++ binding ++ mapOpening ++ list ++ mapClosing binding

/-- The map that is made of pairs, one after another. -/
def mapOfPairs (pairs : List (String × Expression)) : List (String × Expression) :=
  pairs.foldl (fun entries pair => Keyed.upsert pair.1 pair.2 entries) []

/-! ### Modules read back -/

variable {alphabet : Alphabet} {binding list : String} {expression : Expression}
  {pairs : List (String × Expression)}

theorem pairs?_list (pairs : List (String × Expression)) :
    (Expression.list (pairs.map fun pair => .list [.text pair.1, pair.2])).pairs? = some pairs := by
  unfold Expression.pairs?
  induction pairs with
  | nil => rfl
  | cons pair rest inductionHypothesis =>
    simp only at inductionHypothesis
    simp only [List.map_cons, List.mapM_cons, inductionHypothesis, Expression.pair?,
      Option.pure_def, Option.bind_eq_bind, Option.bind_some]

theorem cutIdentifier?_append {rest : List Char}
    (identifier : alphabet.isIdentifier binding = true) (breaks : Breaks alphabet rest) :
    alphabet.cutIdentifier? (binding.toList ++ rest) = some (binding, rest) := by
  unfold Alphabet.isIdentifier at identifier
  split at identifier
  · cases identifier
  · next c following isBinding =>
    rw [Bool.and_eq_true, List.all_eq_true] at identifier
    obtain ⟨taken, left⟩ := takeWhile_breaks identifier.2 breaks
    rw [isBinding, List.cons_append, Alphabet.cutIdentifier?, if_pos identifier.1, taken, left,
      ← isBinding, String.ofList_toList]

/-- A module of a map is read back if its list is read as one of pairs. -/
theorem read?_mapModule (identifier : alphabet.isIdentifier binding = true)
    (reads : Reads alphabet list expression) (isPairs : expression.pairs? = some pairs) :
    MapModule.read? alphabet (mapModule binding list) = some ⟨binding, pairs⟩ := by
  have breaks :
      Breaks alphabet (mapOpening.toList ++ (list.toList ++ (mapClosing binding).toList)) :=
    breaks_cons alphabet (by decide) _
  have preamble := List.dropPrefix?_append_of_beq
    (binding.toList ++ (mapOpening.toList ++ (list.toList ++ (mapClosing binding).toList)))
    (beq_self_eq_true mapPreamble.toList)
  have opening := List.dropPrefix?_append_of_beq (list.toList ++ (mapClosing binding).toList)
    (beq_self_eq_true mapOpening.toList)
  have closing : (list.toList ++ (mapClosing binding).toList).dropSuffix?
      (mapClosing binding).toList = some list.toList :=
    List.dropSuffix?_eq_some_iff.mpr ⟨_, rfl, beq_self_eq_true _⟩
  unfold MapModule.read? mapModule
  simp only [String.toList_append, List.append_assoc, preamble, opening, closing,
    cutIdentifier?_append identifier breaks, String.ofList_toList, read?_of_reads reads, isPairs,
    Option.bind_eq_bind, Option.bind_some]

/-! ### Maps -/

/-- Pairs with different keys are the map that is made of them. -/
theorem mapOfPairs_of_nodup (distinct : (pairs.map Prod.fst).Nodup) : mapOfPairs pairs = pairs :=
  Keyed.foldl_upsert_of_nodup distinct

end IconForge.Script.Reader
