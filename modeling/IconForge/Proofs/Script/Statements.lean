import IconForge.Proofs.Script.MapModule

/-!
Contract: statements of a script that stand in lines of their own.

Owns:
- the lines of a text, and those that are in no comment;
- the exports of a module that only passes on what other modules export;
- the names that the statements of a module bind.

Main statements: `lines_eq`, `codeLines_comment`, `read?_exportLine`,
`bound?_statement`.

Does not own: modules whose statements run over lines in any other way.
-/

namespace IconForge.Script.Reader

open IconForge.Text

variable {alphabet : Alphabet} {name : String} {line rest : List Char}

/-! ### Lines -/

def endsLine (c : Char) : Bool :=
  c == '\n'

def lines (source : String) : List (List Char) :=
  splitAt endsLine source.toList

/-- A text that is made of lines is read back as these, with nothing behind them. -/
theorem lines_eq {source : String} {parts : List (List Char)}
    (isSource : source.toList = parts.flatMap fun line => line ++ ['\n'])
    (noBreak : ∀ line ∈ parts, '\n' ∉ line) : lines source = parts ++ [[]] := by
  have free : ∀ line ∈ parts, ∀ c ∈ line, endsLine c = false := by
    intro line isLine c member
    rw [endsLine, beq_eq_false_iff_ne]
    rintro rfl
    exact noBreak line isLine member
  have pieces := splitAt_flatMap (show endsLine '\n' = true from rfl) free []
  rw [List.append_nil] at pieces
  rw [lines, isSource, pieces]
  rfl

def commentStart : List Char := ['/', '*']

def commentEnd : List Char := ['*', '/']

/-- The lines that are in no comment, given whether the first one is inside of one. A
comment starts in front of a line, and ends with the line that its end is in. -/
def codeLines (inside : Bool) : List (List Char) → List (List Char)
  | [] => []
  | line :: rest =>
    if inside then codeLines (cutAt? commentEnd line).isNone rest
    else
      match dropStart? commentStart line with
      | some comment => codeLines (cutAt? commentEnd comment).isNone rest
      | none => line :: codeLines false rest

theorem codeLines_code {lines behind : List (List Char)}
    (code : ∀ line ∈ lines, dropStart? commentStart line = none) :
    codeLines false (lines ++ behind) = lines ++ codeLines false behind := by
  induction lines with
  | nil => rfl
  | cons line rest inductionHypothesis =>
    rw [List.forall_mem_cons] at code
    rw [List.cons_append, codeLines, if_neg Bool.false_ne_true, code.1,
      inductionHypothesis code.2]
    rfl

theorem codeLines_inside {lines behind : List (List Char)}
    (comment : ∀ line ∈ lines, cutAt? commentEnd line = none) :
    codeLines true (lines ++ behind) = codeLines true behind := by
  induction lines with
  | nil => rfl
  | cons line rest inductionHypothesis =>
    rw [List.forall_mem_cons] at comment
    rw [List.cons_append, codeLines, if_pos rfl, comment.1]
    exact inductionHypothesis comment.2

/-- A comment over several lines is left out. -/
theorem codeLines_comment {opening closing : List Char} {lines behind : List (List Char)}
    (opens : (dropStart? commentStart opening).map (cutAt? commentEnd) = some none)
    (comment : ∀ line ∈ lines, cutAt? commentEnd line = none)
    (closes : (cutAt? commentEnd closing).isNone = false) :
    codeLines false (opening :: (lines ++ closing :: behind)) = codeLines false behind := by
  obtain ⟨inside, isInside, noEnd⟩ := Option.map_eq_some_iff.mp opens
  rw [codeLines, if_neg Bool.false_ne_true, isInside]
  simp only [noEnd, Option.isNone_none]
  rw [codeLines_inside comment, codeLines, if_pos rfl, closes]

theorem dropStart?_commentStart_eq_none (noComment : line.head? ≠ some '/') :
    dropStart? commentStart line = none := by
  cases line with
  | nil => rfl
  | cons c rest =>
    have differ : '/' ≠ c := fun same => noComment (congrArg some same.symm)
    rw [commentStart, dropStart?, if_neg differ]

/-- A line without a star has no end of a comment in it. -/
theorem cutAt?_commentEnd_eq_none (noStar : '*' ∉ line) : cutAt? commentEnd line = none := by
  induction line with
  | nil => rfl
  | cons c rest inductionHypothesis =>
    rw [List.mem_cons, not_or] at noStar
    have noMark : dropStart? commentEnd (c :: rest) = none := by
      rw [commentEnd, dropStart?, if_neg noStar.1]
    rw [cutAt?, noMark, inductionHypothesis noStar.2]
    rfl

/-! ### Literals without escapes -/

/-- What needs no escapes in quotes is the value of the literal that it stands in. -/
theorem cutString?_of_plain {text : String} (plain : literalBody text.toList = text.toList)
    (ending : List Char) :
    ∃ pieces, Json5.cutString? '"' (text.toList ++ '"' :: ending) = some (pieces, ending) ∧
      stringValue? pieces = some text := by
  have cut := Json5.cutString?_literalBody text.toList ending
  rw [plain] at cut
  refine ⟨_, cut, ?_⟩
  change (Json5.stringOf (Json5.literalPieces text)).toOption = some text
  rw [Json5.stringOf_literalPieces]
  rfl

/-! ### Exports -/

/-- What a module exports: another module's default under a name. -/
structure Export where
  name : String
  source : String
deriving DecidableEq, Repr

def exportOpening : String := "export \x7b default as "

def exportSource : String := " \x7d from \""

def Export.read? (alphabet : Alphabet) (line : List Char) : Option Export := do
  let named ← line.dropPrefix? exportOpening.toList
  let (name, behind) ← alphabet.cutIdentifier? named
  let quoted ← behind.dropPrefix? exportSource.toList
  let (pieces, ending) ← Json5.cutString? '"' quoted
  let source ← stringValue? pieces
  if ending = [';'] then some ⟨name, source⟩ else none

/-- The exports of a module each line of which is one, unless it is empty. -/
def exports? (alphabet : Alphabet) (source : String) : Option (List Export) :=
  ((lines source).filter fun line => !line.isEmpty).mapM (Export.read? alphabet)

/-- The line of an export, of which the other module's name needs no escapes. -/
def exportLine (exported : Export) : String :=
  exportOpening ++ exported.name ++ exportSource ++ exported.source ++ "\";"

theorem read?_exportLine {exported : Export}
    (identifier : alphabet.isIdentifier exported.name = true)
    (plain : literalBody exported.source.toList = exported.source.toList) :
    Export.read? alphabet (exportLine exported).toList = some exported := by
  have opening := List.dropPrefix?_append_of_beq
    (exported.name.toList ++ (exportSource.toList ++ (exported.source.toList ++ "\";".toList)))
    (beq_self_eq_true exportOpening.toList)
  have breaks : Breaks alphabet
      (exportSource.toList ++ (exported.source.toList ++ "\";".toList)) :=
    breaks_cons alphabet (by decide) _
  have quoted := List.dropPrefix?_append_of_beq (exported.source.toList ++ "\";".toList)
    (beq_self_eq_true exportSource.toList)
  have ending : "\";".toList = '"' :: [';'] := rfl
  obtain ⟨pieces, source, value⟩ := cutString?_of_plain plain [';']
  unfold Export.read? exportLine
  simp only [String.toList_append, List.append_assoc, opening,
    cutIdentifier?_append identifier breaks, quoted, Option.bind_eq_bind, Option.bind_some]
  rw [ending, source]
  simp only [Option.bind_some, value, if_true]

/-- A module of exports is read back. -/
theorem exports?_of_lines {source : String} {exports : List Export}
    (isSource : source.toList =
      (exports.map fun exported => (exportLine exported).toList).flatMap
        fun line => line ++ ['\n'])
    (noBreak : ∀ exported ∈ exports, '\n' ∉ (exportLine exported).toList)
    (identifiers : ∀ exported ∈ exports, alphabet.isIdentifier exported.name = true)
    (plain : ∀ exported ∈ exports,
      literalBody exported.source.toList = exported.source.toList) :
    exports? alphabet source = some exports := by
  have notEmpty : ∀ line ∈ exports.map fun exported => (exportLine exported).toList,
      (!line.isEmpty) = true := by
    refine List.forall_mem_map.mpr fun exported _ => ?_
    unfold exportLine exportOpening
    simp [String.toList_append]
  unfold exports?
  rw [lines_eq isSource (List.forall_mem_map.mpr noBreak), List.filter_append,
    List.filter_eq_self.mpr notEmpty, List.filter_cons_of_neg (by simp), List.filter_nil,
    List.append_nil]
  clear isSource noBreak notEmpty
  induction exports with
  | nil => rfl
  | cons exported rest inductionHypothesis =>
    rw [List.forall_mem_cons] at identifiers plain
    rw [List.map_cons, List.mapM_cons, read?_exportLine identifiers.1 plain.1,
      inductionHypothesis identifiers.2 plain.2]
    rfl

/-! ### Names that statements bind -/

/-- What stands in front of the name that a statement binds, and what behind it. -/
structure BindingForm where
  opening : String
  closing : String

namespace BindingForm

/-- All that a module exports, under a name. -/
def importAll : BindingForm := ⟨"import * as ", " from \""⟩

def importType : BindingForm := ⟨"import type \x7b ", " \x7d from \""⟩

def importDefault : BindingForm := ⟨"import ", " from \""⟩

/-- A constant with its type. -/
def constant : BindingForm := ⟨"const ", ": "⟩

/-- The forms of statements that bind names. A line is in the first one that fits. -/
def all : List BindingForm := [importAll, importType, importDefault, constant]

/-- The line of a statement that binds a name in a form. -/
def statement (form : BindingForm) (name behind : String) : String :=
  form.opening ++ name ++ form.closing ++ behind

/-- The name that a line binds in a form. -/
def bound? (form : BindingForm) (alphabet : Alphabet) (line : List Char) : Option String := do
  let named ← line.dropPrefix? form.opening.toList
  let (name, behind) ← alphabet.cutIdentifier? named
  let _ ← behind.dropPrefix? form.closing.toList
  some name

end BindingForm

/-- The name that a line binds, if it binds one. -/
def bound? (alphabet : Alphabet) (line : List Char) : Option String :=
  BindingForm.all.findSome? fun form => form.bound? alphabet line

/-- The names that the statements of a module bind, in the order of the statements. -/
def bindings (alphabet : Alphabet) (source : String) : List String :=
  (codeLines false (lines source)).filterMap (bound? alphabet)

variable {form : BindingForm} {behind : String}

theorem BindingForm.bound?_statement (identifier : alphabet.isIdentifier name = true)
    (breaks : ∃ c rest, form.closing.toList = c :: rest ∧ isBreak c = true) :
    form.bound? alphabet (form.statement name behind).toList = some name := by
  obtain ⟨c, rest, isClosing, isBreak⟩ := breaks
  have breaks : Breaks alphabet (form.closing.toList ++ behind.toList) := by
    rw [isClosing]
    exact breaks_cons alphabet isBreak _
  have opening := List.dropPrefix?_append_of_beq
    (name.toList ++ (form.closing.toList ++ behind.toList))
    (beq_self_eq_true form.opening.toList)
  have closing := List.dropPrefix?_append_of_beq behind.toList
    (beq_self_eq_true form.closing.toList)
  unfold BindingForm.bound? BindingForm.statement
  simp only [String.toList_append, List.append_assoc, opening,
    cutIdentifier?_append identifier breaks, closing, Option.bind_eq_bind, Option.bind_some]

theorem BindingForm.bound?_of_noPrefix (noPrefix : line.dropPrefix? form.opening.toList = none) :
    form.bound? alphabet line = none := by
  unfold BindingForm.bound?
  rw [noPrefix]
  rfl

/-- A line that starts with another character than a form is not in it. -/
theorem BindingForm.dropPrefix?_of_head {c : Char} {following : List Char}
    (isOpening : form.opening.toList = c :: following) (other : line.head? ≠ some c) :
    line.dropPrefix? form.opening.toList = none := by
  rw [isOpening]
  cases line with
  | nil => rfl
  | cons first rest =>
    have differ : (first == c) = false := by
      rw [beq_eq_false_iff_ne]
      exact fun same => other (congrArg some same)
    rw [List.dropPrefix?, differ]
    rfl

/-- A name is bound in the first form that fits. -/
theorem bound?_statement {earlier later : List BindingForm}
    (forms : BindingForm.all = earlier ++ form :: later)
    (unfit : ∀ other ∈ earlier,
      (form.statement name behind).toList.dropPrefix? other.opening.toList = none)
    (identifier : alphabet.isIdentifier name = true)
    (breaks : ∃ c rest, form.closing.toList = c :: rest ∧ isBreak c = true) :
    bound? alphabet (form.statement name behind).toList = some name := by
  have noEarlier :
      (earlier.findSome? fun other => other.bound? alphabet (form.statement name behind).toList) =
        none :=
    List.findSome?_eq_none_iff.mpr fun other member =>
      BindingForm.bound?_of_noPrefix (unfit other member)
  unfold bound?
  rw [forms, List.findSome?_append, noEarlier, List.findSome?_cons,
    BindingForm.bound?_statement identifier breaks]
  rfl

/-- A line binds nothing that starts with no letter with which a form starts. -/
theorem bound?_eq_none (noImport : line.head? ≠ some 'i') (noConst : line.head? ≠ some 'c') :
    bound? alphabet line = none := by
  unfold bound? BindingForm.all
  rw [List.findSome?_eq_none_iff]
  simp only [List.forall_mem_cons]
  refine ⟨?_, ?_, ?_, ?_, List.forall_mem_nil _⟩ <;> apply BindingForm.bound?_of_noPrefix
  · exact BindingForm.dropPrefix?_of_head rfl noImport
  · exact BindingForm.dropPrefix?_of_head rfl noImport
  · exact BindingForm.dropPrefix?_of_head rfl noImport
  · exact BindingForm.dropPrefix?_of_head rfl noConst

theorem bound?_importAll (identifier : alphabet.isIdentifier name = true) :
    bound? alphabet (BindingForm.importAll.statement name behind).toList = some name := by
  have forms : BindingForm.all = [] ++ .importAll :: _ := rfl
  exact bound?_statement forms nofun identifier ⟨_, _, rfl, rfl⟩

/-- A type is imported in no form but its own. -/
theorem dropPrefix?_importType : ∀ other ∈ [BindingForm.importAll],
    (BindingForm.importType.statement name behind).toList.dropPrefix? other.opening.toList =
      none := by
  refine List.forall_mem_singleton.mpr ?_
  unfold BindingForm.statement BindingForm.importType BindingForm.importAll
  simp only [String.toList_append, List.append_assoc]
  repeat rw [String.toList_ofList]
  rfl

/-- A default is imported under any name that is not taken for the beginning of another
form. -/
theorem dropPrefix?_importDefault {c : Char} {following : List Char}
    (isName : name.toList = c :: following) (noStar : c ≠ '*') (noType : c ≠ 't') :
    ∀ other ∈ [BindingForm.importAll, BindingForm.importType],
      (BindingForm.importDefault.statement name behind).toList.dropPrefix?
        other.opening.toList = none := by
  rw [List.forall_mem_cons, List.forall_mem_singleton]
  unfold BindingForm.statement BindingForm.importType BindingForm.importAll
    BindingForm.importDefault
  simp only [String.toList_append, List.append_assoc, isName]
  repeat rw [String.toList_ofList]
  simp [List.dropPrefix?, noStar, noType]

theorem bound?_importType (identifier : alphabet.isIdentifier name = true) :
    bound? alphabet (BindingForm.importType.statement name behind).toList = some name := by
  have forms : BindingForm.all = [.importAll] ++ .importType :: _ := rfl
  exact bound?_statement forms dropPrefix?_importType identifier ⟨_, _, rfl, rfl⟩

theorem bound?_importDefault (identifier : alphabet.isIdentifier name = true) {c : Char}
    {following : List Char} (isName : name.toList = c :: following) (noStar : c ≠ '*')
    (noType : c ≠ 't') :
    bound? alphabet (BindingForm.importDefault.statement name behind).toList = some name := by
  have forms : BindingForm.all = [.importAll, .importType] ++ .importDefault :: _ := rfl
  exact bound?_statement forms (dropPrefix?_importDefault isName noStar noType) identifier
    ⟨_, _, rfl, rfl⟩

theorem bound?_constant (identifier : alphabet.isIdentifier name = true) :
    bound? alphabet (BindingForm.constant.statement name behind).toList = some name := by
  have forms : BindingForm.all =
      [.importAll, .importType, .importDefault] ++ .constant :: [] := rfl
  refine bound?_statement forms ?_ identifier ⟨_, _, rfl, rfl⟩
  rw [List.forall_mem_cons, List.forall_mem_cons, List.forall_mem_singleton]
  unfold BindingForm.statement BindingForm.constant
  simp only [String.toList_append, List.append_assoc]
  repeat rw [String.toList_ofList]
  exact ⟨rfl, rfl, rfl⟩

end IconForge.Script.Reader
