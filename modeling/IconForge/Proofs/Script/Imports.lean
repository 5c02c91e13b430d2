import IconForge.Proofs.Script.Statements

/-!
Contract: the imports of a module whose statements stand in lines of their own.

Owns:
- what a line imports: a name, and the module that it is imported from;
- that a line of an import is read back, and that other lines import nothing.

Main statement: `read?_statement`.

Does not own: the names that other statements bind.
-/

namespace IconForge.Script.Reader

variable {alphabet : Alphabet} {name source : String} {line : List Char} {form : BindingForm}

/-- What a module imports: another module's default, its types or all of it, under a name. -/
structure Import where
  name : String
  source : String
deriving DecidableEq, Repr

namespace BindingForm

/-- The forms of statements that import. A line is in the first one that fits. -/
def imports : List BindingForm := [importAll, importType, importDefault]

/-- What a line imports in a form, up to the other module's name, which a string literal at
the end of the line gives. -/
def import? (form : BindingForm) (alphabet : Alphabet) (line : List Char) : Option Import := do
  let named ← line.dropPrefix? form.opening.toList
  let (name, behind) ← alphabet.cutIdentifier? named
  let quoted ← behind.dropPrefix? form.closing.toList
  let (pieces, ending) ← Json5.cutString? '"' quoted
  let source ← stringValue? pieces
  if ending = [] then some ⟨name, source⟩ else none

end BindingForm

/-- What a line imports, if it imports anything. -/
def Import.read? (alphabet : Alphabet) (line : List Char) : Option Import :=
  BindingForm.imports.findSome? fun form => form.import? alphabet line

/-- The imports of a module, in the order of its lines. -/
def imports (alphabet : Alphabet) (source : String) : List Import :=
  (codeLines false (lines source)).filterMap (Import.read? alphabet)

theorem BindingForm.import?_of_noPrefix (noPrefix : line.dropPrefix? form.opening.toList = none) :
    form.import? alphabet line = none := by
  unfold BindingForm.import?
  rw [noPrefix]
  rfl

theorem BindingForm.import?_statement (identifier : alphabet.isIdentifier name = true)
    (breaks : ∃ c rest, form.closing.toList = c :: rest ∧ isBreak c = true)
    (plain : literalBody source.toList = source.toList) :
    form.import? alphabet (form.statement name (source ++ "\"")).toList =
      some ⟨name, source⟩ := by
  obtain ⟨c, rest, isClosing, isBreak⟩ := breaks
  obtain ⟨pieces, cut, value⟩ := cutString?_of_plain plain []
  have ending : "\"".toList = ['"'] := rfl
  have breaks : Breaks alphabet (form.closing.toList ++ (source.toList ++ ['"'])) := by
    rw [isClosing]
    exact breaks_cons alphabet isBreak _
  have opening := List.dropPrefix?_append_of_beq
    (name.toList ++ (form.closing.toList ++ (source.toList ++ ['"'])))
    (beq_self_eq_true form.opening.toList)
  have closing := List.dropPrefix?_append_of_beq (source.toList ++ ['"'])
    (beq_self_eq_true form.closing.toList)
  unfold BindingForm.import? BindingForm.statement
  simp only [String.toList_append, List.append_assoc, ending, opening,
    cutIdentifier?_append identifier breaks, closing, cut, value, Option.bind_eq_bind,
    Option.bind_some, if_true]

/-- An import is read back in the first form that fits. -/
theorem read?_statement {earlier later : List BindingForm}
    (forms : BindingForm.imports = earlier ++ form :: later)
    (unfit : ∀ other ∈ earlier,
      (form.statement name (source ++ "\"")).toList.dropPrefix? other.opening.toList = none)
    (identifier : alphabet.isIdentifier name = true)
    (breaks : ∃ c rest, form.closing.toList = c :: rest ∧ isBreak c = true)
    (plain : literalBody source.toList = source.toList) :
    Import.read? alphabet (form.statement name (source ++ "\"")).toList =
      some ⟨name, source⟩ :=
  List.findSome?_eq_some_iff.mpr ⟨earlier, form, later, forms,
    BindingForm.import?_statement identifier breaks plain,
    fun other member => BindingForm.import?_of_noPrefix (unfit other member)⟩

theorem read?_eq_none (noImport : line.head? ≠ some 'i') : Import.read? alphabet line = none := by
  unfold Import.read? BindingForm.imports
  rw [List.findSome?_eq_none_iff]
  simp only [List.forall_mem_cons]
  refine ⟨?_, ?_, ?_, List.forall_mem_nil _⟩
  · exact BindingForm.import?_of_noPrefix (BindingForm.dropPrefix?_of_head rfl noImport)
  · exact BindingForm.import?_of_noPrefix (BindingForm.dropPrefix?_of_head rfl noImport)
  · exact BindingForm.import?_of_noPrefix (BindingForm.dropPrefix?_of_head rfl noImport)

end IconForge.Script.Reader
