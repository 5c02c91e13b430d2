import IconForge.Proofs.Json5.Literal
import IconForge.Proofs.Script.Printing
import IconForge.Proofs.Text.Case

/-!
Contract: the indent of an expression's text is layout and nothing else.

Owns:
- the text of an expression as stretches of code on one line and the line breaks of lists:
  one where a list opens, one behind every comma of it, and one where it closes;
- that code holds no line feed if the names of elements hold none;
- that another indent is the same text with the indent behind every line feed.

Main statement: `rootExpression_indented`.

Does not own: what the text is read as.
-/

namespace IconForge.Script.Reader

open IconForge.Svg

/-! ### Stretches of a text -/

/-- Why a new line starts inside an expression. -/
inductive LineBreak where
  | opens
  | separates
  | closes
deriving DecidableEq, Repr

/-- A stretch of an expression's text: code, or the break in front of a line of a list, which
is so many levels deep. -/
inductive Stretch where
  | code (text : String)
  | lineBreak (kind : LineBreak) (depth : Nat)
deriving DecidableEq, Repr

def Stretch.text (indent : String) : Stretch → String
  | .code text => text
  | .lineBreak _ depth => "\n" ++ lineStart indent depth

def stretchesText (indent : String) (stretches : List Stretch) : String :=
  String.join (stretches.map (Stretch.text indent))

mutual

/-- The stretches of an expression that is so many levels deep. -/
def Expression.stretches (depth : Nat) : Expression → List Stretch
  | .null => [.code "null"]
  | .text value => [.code (literal value)]
  | .list items =>
    [.code "[", .lineBreak .opens depth] ++
      ([.code ",", .lineBreak .separates depth].intercalate (stretchesAll depth items) ++
        [.lineBreak .closes (depth - 1), .code "]"])
  | .create tag props arguments =>
    .code ("React.createElement(" ++ String.intercalate "." tag ++ ", " ++ propsLayout props) ::
      ((stretchesAll (depth + 1) arguments).flatMap (.code ", " :: ·) ++ [.code ")"])

def stretchesAll (depth : Nat) : List Expression → List (List Stretch)
  | [] => []
  | expression :: rest => expression.stretches depth :: stretchesAll depth rest

end

/-- No stretch of code holds a line feed. -/
def Unbroken (stretches : List Stretch) : Prop :=
  ∀ text, .code text ∈ stretches → '\n' ∉ text.toList

/-- A text with an indent put behind every line feed. -/
def indented (indent text : String) : String :=
  String.ofList (text.toList.flatMap fun c => if c = '\n' then '\n' :: indent.toList else [c])

variable {indent text first second : String} {stretches front back : List Stretch} {c : Char}

theorem stretchesText_nil (indent : String) : stretchesText indent [] = "" :=
  String.join_nil

theorem stretchesText_append (indent : String) (front back : List Stretch) :
    stretchesText indent (front ++ back) =
      stretchesText indent front ++ stretchesText indent back := by
  rw [stretchesText, List.map_append, String.join_append]
  rfl

theorem stretchesText_cons (indent : String) (stretch : Stretch) (rest : List Stretch) :
    stretchesText indent (stretch :: rest) = stretch.text indent ++ stretchesText indent rest :=
  String.join_cons

theorem stretchesText_singleton (indent : String) (stretch : Stretch) :
    stretchesText indent [stretch] = stretch.text indent := by
  rw [stretchesText_cons, stretchesText_nil, String.append_empty]

theorem stretchesText_intercalate (indent : String) (separator : List Stretch)
    (parts : List (List Stretch)) :
    stretchesText indent (separator.intercalate parts) =
      String.intercalate (stretchesText indent separator) (parts.map (stretchesText indent)) := by
  induction parts with
  | nil => rfl
  | cons part others inductionHypothesis =>
    cases others with
    | nil => rw [List.intercalate_singleton, List.map_singleton, String.intercalate_singleton]
    | cons next others =>
      rw [List.intercalate_cons_cons, stretchesText_append, stretchesText_append,
        inductionHypothesis]
      exact String.intercalate_cons_cons.symm

theorem stretchesText_arguments (indent : String) (arguments : List (List Stretch)) :
    stretchesText indent (arguments.flatMap (.code ", " :: ·)) =
      String.join ((arguments.map (stretchesText indent)).map (", " ++ ·)) := by
  induction arguments with
  | nil => rfl
  | cons argument rest inductionHypothesis =>
    rw [List.flatMap_cons, stretchesText_append, stretchesText_cons, inductionHypothesis]
    rw [List.map_cons, List.map_cons, String.join_cons, Stretch.text]

mutual

/-- The stretches of an expression make up its text. -/
theorem stretchesText_stretches (indent : String) (depth : Nat) (expression : Expression) :
    stretchesText indent (expression.stretches depth) = expression.layout indent depth := by
  cases expression with
  | null =>
    rw [Expression.stretches, Expression.layout]
    exact stretchesText_singleton _ _
  | text value =>
    rw [Expression.stretches, Expression.layout]
    exact stretchesText_singleton _ _
  | list items =>
    have inner := stretchesText_stretchesAll indent depth items
    rw [Expression.stretches, Expression.layout, stretchesText_append, stretchesText_append,
      stretchesText_intercalate, inner]
    have opening : "[\n" = "[" ++ "\n" := rfl
    have separator : ",\n" = "," ++ "\n" := rfl
    simp only [stretchesText_cons, stretchesText_nil, Stretch.text, listLayout, opening, separator,
      String.append_assoc, String.append_empty]
  | create tag props arguments =>
    have inner := stretchesText_stretchesAll indent (depth + 1) arguments
    rw [Expression.stretches, stretchesText_cons, stretchesText_append, stretchesText_arguments,
      inner, stretchesText_singleton, Expression.layout]
    exact String.append_assoc.symm

theorem stretchesText_stretchesAll (indent : String) (depth : Nat) (items : List Expression) :
    (stretchesAll depth items).map (stretchesText indent) = layoutAll indent depth items := by
  cases items with
  | nil => rw [stretchesAll, layoutAll, List.map_nil]
  | cons expression rest =>
    rw [stretchesAll, layoutAll, List.map_cons, stretchesText_stretches indent depth expression,
      stretchesText_stretchesAll indent depth rest]

end

/-! ### Code without line feeds -/

theorem lineEnd_notMem_append (noFirst : '\n' ∉ first.toList) (noSecond : '\n' ∉ second.toList) :
    '\n' ∉ (first ++ second).toList := by
  rw [String.toList_append, List.mem_append]
  exact not_or.mpr ⟨noFirst, noSecond⟩

theorem lineEnd_notMem_intercalate {separator : String} {texts : List String}
    (noSeparator : '\n' ∉ separator.toList) (each : ∀ text ∈ texts, '\n' ∉ text.toList) :
    '\n' ∉ (String.intercalate separator texts).toList := by
  induction texts with
  | nil => exact List.not_mem_nil
  | cons text others inductionHypothesis =>
    rw [List.forall_mem_cons] at each
    cases others with
    | nil =>
      rw [String.intercalate_singleton]
      exact each.1
    | cons next others =>
      rw [String.intercalate_cons_cons]
      exact lineEnd_notMem_append (lineEnd_notMem_append each.1 noSeparator)
        (inductionHypothesis each.2)

theorem lineEnd_notMem_unicodeEscape (c : Char) : '\n' ∉ unicodeEscape c := by
  have noDigit (value : Nat) : '\n' ≠ hexDigit (value % 16) := by
    intro isDigit
    have hexadecimal := Json5.isHexDigit_hexDigit _ (Nat.mod_lt value (by decide))
    rw [← isDigit] at hexadecimal
    cases hexadecimal
  simp [unicodeEscape, noDigit]

theorem lineEnd_notMem_escapeChar (c : Char) : '\n' ∉ escapeChar c := by
  unfold escapeChar
  split
  case h_8 | h_9 => exact lineEnd_notMem_unicodeEscape _
  case h_10 _ _ _ _ noLineEnd _ _ _ _ =>
    split
    · exact lineEnd_notMem_unicodeEscape c
    · exact fun member => noLineEnd (List.mem_singleton.mp member).symm
  all_goals simp

theorem lineEnd_notMem_literal (text : String) : '\n' ∉ (literal text).toList := by
  rw [literal, String.toList_ofList, List.mem_cons, List.mem_append, List.mem_singleton]
  rintro (isQuote | inBody | isQuote)
  · cases isQuote
  · obtain ⟨c, -, inside⟩ := List.mem_flatMap.mp inBody
    exact lineEnd_notMem_escapeChar c inside
  · cases isQuote

theorem lineEnd_notMem_of_isIdentifier (identifier : isIdentifier text = true) :
    '\n' ∉ text.toList := by
  unfold isIdentifier at identifier
  split at identifier
  · cases identifier
  · next first rest isText =>
    rw [Bool.and_eq_true, List.all_eq_true] at identifier
    rw [isText, List.mem_cons]
    rintro (isFirst | inRest)
    · rw [← isFirst] at identifier
      cases identifier.1
    · cases identifier.2 '\n' inRest

theorem lineEnd_notMem_key (text : String) : '\n' ∉ (key text).toList := by
  unfold key
  split
  · next identifier => exact lineEnd_notMem_of_isIdentifier identifier
  · exact lineEnd_notMem_literal text

theorem lineEnd_notMem_number (value : Nat) : '\n' ∉ (toString value).toList := by
  have isText : (toString value).toList = Nat.toDigits 10 value := String.toList_ofList
  rw [isText]
  intro member
  cases Nat.isDigit_of_mem_toDigits (by decide) (by decide) member

theorem lineEnd_notMem_propLayout (property : String × PropValue) :
    '\n' ∉ (propLayout property).toList := by
  refine lineEnd_notMem_append
    (lineEnd_notMem_append (lineEnd_notMem_key property.1) (by decide)) ?_
  cases property.2 with
  | number value => exact lineEnd_notMem_number value
  | text value => exact lineEnd_notMem_literal value

theorem lineEnd_notMem_propsLayout (props : Option (List (String × PropValue))) :
    '\n' ∉ (propsLayout props).toList := by
  cases props with
  | none => decide
  | some props =>
    refine lineEnd_notMem_append (lineEnd_notMem_append (by decide) ?_) (by decide)
    refine lineEnd_notMem_intercalate (by decide) fun text member => ?_
    obtain ⟨property, -, rfl⟩ := List.mem_map.mp member
    exact lineEnd_notMem_propLayout property

theorem lineEnd_notMem_capitalize (noLineEnd : '\n' ∉ text.toList) :
    '\n' ∉ (Naming.capitalize text).toList := by
  rw [Naming.capitalize, String.toList_ofList]
  cases isText : text.toList with
  | nil => exact List.not_mem_nil
  | cons c rest =>
    rw [isText, List.mem_cons, not_or] at noLineEnd
    rw [Naming.capitalizeChars, List.mem_append]
    rintro (inUpper | inRest)
    · exact noLineEnd.1 (Text.Case.eq_lineEnd_of_mem_upper inUpper).symm
    · exact noLineEnd.2 inRest

/-! ### Expressions without line feeds in their code -/

/-- The code of an expression holds no line feed, however deep the expression is. -/
def Expression.IsUnbroken (expression : Expression) : Prop :=
  ∀ depth, Unbroken (expression.stretches depth)

variable {depth : Nat} {items : List Expression} {node : Node}

theorem unbroken_cons_code (noLineEnd : '\n' ∉ text.toList) (unbroken : Unbroken stretches) :
    Unbroken (.code text :: stretches) := by
  intro other member
  rcases List.mem_cons.mp member with isFirst | inRest
  · cases isFirst
    exact noLineEnd
  · exact unbroken other inRest

theorem unbroken_append (unbroken : Unbroken front) (alsoUnbroken : Unbroken back) :
    Unbroken (front ++ back) := by
  intro text member
  rcases List.mem_append.mp member with inFront | inBack
  · exact unbroken text inFront
  · exact alsoUnbroken text inBack

theorem unbroken_code (noLineEnd : '\n' ∉ text.toList) : Unbroken [.code text] :=
  unbroken_cons_code noLineEnd fun _ member => absurd member List.not_mem_nil

theorem stretchesAll_eq_map (depth : Nat) (items : List Expression) :
    stretchesAll depth items = items.map (Expression.stretches depth) := by
  induction items with
  | nil => rw [stretchesAll, List.map_nil]
  | cons item rest inductionHypothesis => rw [stretchesAll, inductionHypothesis, List.map_cons]

theorem unbroken_intercalate (depth : Nat) {separator : List Stretch}
    (unbroken : Unbroken separator) (each : ∀ item ∈ items, item.IsUnbroken) :
    Unbroken (separator.intercalate (stretchesAll depth items)) := by
  induction items with
  | nil =>
    rw [stretchesAll]
    exact fun _ member => absurd member List.not_mem_nil
  | cons item others inductionHypothesis =>
    rw [List.forall_mem_cons] at each
    cases others with
    | nil =>
      rw [stretchesAll, stretchesAll, List.intercalate_singleton]
      exact each.1 depth
    | cons next others =>
      have behind := inductionHypothesis each.2
      rw [stretchesAll] at behind
      rw [stretchesAll, stretchesAll, List.intercalate_cons_cons]
      exact unbroken_append (unbroken_append (each.1 depth) unbroken) behind

theorem isUnbroken_list (each : ∀ item ∈ items, item.IsUnbroken) :
    (Expression.list items).IsUnbroken := by
  intro depth text member
  have separator : Unbroken [.code ",", .lineBreak .separates depth] := by simp [Unbroken]
  have inside := unbroken_intercalate depth separator each
  rw [Expression.stretches, List.mem_append, List.mem_append] at member
  rcases member with opening | inItems | closing
  · simp_all
  · exact inside text inItems
  · simp_all

theorem isUnbroken_create {tag : List String} {props : Option (List (String × PropValue))}
    {arguments : List Expression} (names : ∀ name ∈ tag, '\n' ∉ name.toList)
    (each : ∀ argument ∈ arguments, argument.IsUnbroken) :
    (Expression.create tag props arguments).IsUnbroken := by
  intro depth
  have start : '\n' ∉ ("React.createElement(" ++ String.intercalate "." tag ++ ", " ++
      propsLayout props).toList :=
    lineEnd_notMem_append
      (lineEnd_notMem_append
        (lineEnd_notMem_append (by decide) (lineEnd_notMem_intercalate (by decide) names))
        (by decide))
      (lineEnd_notMem_propsLayout props)
  rw [Expression.stretches, stretchesAll_eq_map]
  refine unbroken_cons_code start (unbroken_append ?_ (unbroken_code (by decide)))
  intro text member
  obtain ⟨stretches, isArgument, inside⟩ := List.mem_flatMap.mp member
  obtain ⟨argument, inArguments, rfl⟩ := List.mem_map.mp isArgument
  exact unbroken_cons_code (by decide) (each argument inArguments (depth + 1)) text inside

theorem isUnbroken_argumentsMeaning (each : ∀ item ∈ items, item.IsUnbroken) :
    ∀ argument ∈ argumentsMeaning items, argument.IsUnbroken := by
  match items with
  | [] => exact each
  | [_] => exact each
  | first :: second :: others =>
    intro argument member
    rw [List.mem_singleton.mp member]
    exact isUnbroken_list each

mutual

theorem isUnbroken_nodeMeaning (node : Node)
    (names : ∀ name ∈ elementNames node, '\n' ∉ name.toList) (place : Option Nat) :
    ∀ expression ∈ nodeMeaning place node, expression.IsUnbroken := by
  intro expression isMeaning
  cases node with
  | text value =>
    rw [nodeMeaning] at isMeaning
    split at isMeaning
    · cases isMeaning
    · cases isMeaning
      intro depth
      rw [Expression.stretches]
      exact unbroken_code (lineEnd_notMem_literal value)
  | element name attributes children =>
    rw [elementNames, List.forall_mem_cons] at names
    rw [nodeMeaning] at isMeaning
    cases isMeaning
    have isTag : ∀ word ∈ ["SVG", Naming.capitalize name], '\n' ∉ word.toList := by
      rw [List.forall_mem_cons, List.forall_mem_singleton]
      exact ⟨by decide, lineEnd_notMem_capitalize names.1⟩
    exact isUnbroken_create isTag
      (isUnbroken_argumentsMeaning (isUnbroken_siblingsMeaning children names.2 0))

theorem isUnbroken_siblingsMeaning (nodes : List Node)
    (names : ∀ name ∈ elementNamesAll nodes, '\n' ∉ name.toList) (place : Nat) :
    ∀ expression ∈ siblingsMeaning place nodes, expression.IsUnbroken := by
  cases nodes with
  | nil => exact fun _ member => absurd member List.not_mem_nil
  | cons node rest =>
    rw [elementNamesAll, List.forall_mem_append] at names
    rw [siblingsMeaning, List.forall_mem_append]
    refine ⟨fun expression member => ?_, isUnbroken_siblingsMeaning rest names.2 (place + 1)⟩
    exact isUnbroken_nodeMeaning node names.1 (some place) expression (Option.mem_toList.mp member)

end

theorem isUnbroken_null : Expression.null.IsUnbroken := by
  intro depth
  rw [Expression.stretches]
  exact unbroken_code (by decide)

theorem isUnbroken_groupMeaning (each : ∀ item ∈ items, item.IsUnbroken) :
    (groupMeaning items).IsUnbroken := by
  have isTag : ∀ word ∈ ["React", "Fragment"], '\n' ∉ word.toList := by decide
  match items with
  | [] => exact isUnbroken_create isTag (isUnbroken_argumentsMeaning each)
  | [item] => exact each item List.mem_cons_self
  | first :: second :: others => exact isUnbroken_create isTag (isUnbroken_argumentsMeaning each)

/-- What is written for a drawing has no line feed in its code if the names of its elements
have none. -/
theorem isUnbroken_rootMeaning (names : ∀ name ∈ elementNames node, '\n' ∉ name.toList) :
    (rootMeaning node).IsUnbroken := by
  by_cases isSvg : node.name? = some "svg"
  · cases node with
    | text value => cases isSvg
    | element name attributes children =>
      cases isSvg
      rw [elementNames, List.forall_mem_cons] at names
      exact isUnbroken_groupMeaning (isUnbroken_siblingsMeaning children names.2 0)
  · rw [rootMeaning_of_name? isSvg]
    cases isMeaning : nodeMeaning none node with
    | none => exact isUnbroken_null
    | some meaning => exact isUnbroken_nodeMeaning node names none meaning isMeaning

/-! ### Another indent -/

theorem indented_append (indent first second : String) :
    indented indent (first ++ second) = indented indent first ++ indented indent second := by
  rw [indented, String.toList_append, List.flatMap_append, String.ofList_append]
  rfl

theorem indented_of_notMem (indent : String) (noLineEnd : '\n' ∉ text.toList) :
    indented indent text = text := by
  have keeps : text.toList.flatMap (fun c => if c = '\n' then '\n' :: indent.toList else [c]) =
      text.toList.flatMap fun c => [c] := by
    refine List.flatMap_congr fun c member => if_neg ?_
    rintro rfl
    exact noLineEnd member
  rw [indented, keeps, List.flatMap_singleton', String.ofList_toList]

theorem lineStart_eq (indent : String) (depth : Nat) :
    lineStart indent depth = indent ++ lineStart "" depth := by
  induction depth with
  | zero => exact (String.append_empty).symm
  | succ depth inductionHypothesis =>
    rw [lineStart, inductionHypothesis, String.append_assoc]
    rfl

theorem lineEnd_notMem_lineStart (depth : Nat) : '\n' ∉ (lineStart "" depth).toList := by
  induction depth with
  | zero => exact List.not_mem_nil
  | succ depth inductionHypothesis =>
    exact lineEnd_notMem_append inductionHypothesis (by decide)

theorem indented_lineBreak (indent : String) (kind : LineBreak) (depth : Nat) :
    indented indent ((Stretch.lineBreak kind depth).text "") =
      (Stretch.lineBreak kind depth).text indent := by
  have feed : indented indent "\n" = "\n" ++ indent := by
    apply String.toList_inj.mp
    simp [indented]
  rw [Stretch.text, indented_append, feed,
    indented_of_notMem indent (lineEnd_notMem_lineStart depth), Stretch.text, lineStart_eq indent,
    String.append_assoc]

/-- The text of stretches with an indent is their text without one, with the indent behind
every line feed. -/
theorem indented_stretchesText (indent : String) (unbroken : Unbroken stretches) :
    indented indent (stretchesText "" stretches) = stretchesText indent stretches := by
  induction stretches with
  | nil => rfl
  | cons stretch rest inductionHypothesis =>
    have behind := inductionHypothesis fun text member =>
      unbroken text (List.mem_cons_of_mem _ member)
    rw [stretchesText_cons, stretchesText_cons, indented_append, behind]
    cases stretch with
    | code text =>
      rw [Stretch.text, indented_of_notMem indent (unbroken text List.mem_cons_self), Stretch.text]
    | lineBreak kind depth => rw [indented_lineBreak]

/-! ### Where lines end -/

variable {behind : List Char}

/-- A text that starts without line feeds is cut at one behind that start. -/
theorem append_eq_cut_iff {start rest before : List Char} (noLineEnd : '\n' ∉ start) :
    start ++ rest = before ++ '\n' :: behind ↔
      ∃ later, before = start ++ later ∧ rest = later ++ '\n' :: behind := by
  constructor
  · intro cut
    rcases List.append_eq_append_iff.mp cut with ⟨later, isBefore, isRest⟩ | ⟨later, isStart, isCut⟩
    · exact ⟨later, isBefore, isRest⟩
    · cases later with
      | nil => exact ⟨[], by simpa using isStart.symm, by simpa using isCut.symm⟩
      | cons c later =>
        cases isCut
        refine absurd ?_ noLineEnd
        rw [isStart]
        exact List.mem_append_right _ List.mem_cons_self
  · rintro ⟨later, rfl, rfl⟩
    rw [List.append_assoc]

/-- The line feeds of a text are its line breaks. -/
theorem stretchesText_cut_iff (unbroken : Unbroken stretches) (before : List Char) :
    (stretchesText "" stretches).toList = before ++ '\n' :: behind ↔
      ∃ front kind depth back, stretches = front ++ .lineBreak kind depth :: back ∧
        before = (stretchesText "" front).toList ∧
        behind = (lineStart "" depth ++ stretchesText "" back).toList := by
  constructor
  · intro cut
    induction stretches generalizing before with
    | nil => simp [stretchesText_nil] at cut
    | cons stretch rest inductionHypothesis =>
      have later := inductionHypothesis fun text member =>
        unbroken text (List.mem_cons_of_mem _ member)
      rw [stretchesText_cons, String.toList_append] at cut
      cases stretch with
      | code text =>
        obtain ⟨following, rfl, isRest⟩ :=
          (append_eq_cut_iff (unbroken text List.mem_cons_self)).mp cut
        obtain ⟨front, kind, depth, back, rfl, rfl, isBehind⟩ := later following isRest
        refine ⟨.code text :: front, kind, depth, back, rfl, ?_, isBehind⟩
        rw [stretchesText_cons, String.toList_append]
        rfl
      | lineBreak kind depth =>
        have isBreak : ((Stretch.lineBreak kind depth).text "").toList =
            '\n' :: (lineStart "" depth).toList := String.toList_append
        rw [isBreak] at cut
        cases before with
        | nil =>
          obtain ⟨-, isBehind⟩ := List.cons.inj cut
          refine ⟨[], kind, depth, rest, rfl, rfl, ?_⟩
          rw [String.toList_append]
          exact isBehind.symm
        | cons c others =>
          obtain ⟨rfl, cutBehind⟩ := List.cons.inj cut
          obtain ⟨following, rfl, isRest⟩ :=
            (append_eq_cut_iff (lineEnd_notMem_lineStart depth)).mp cutBehind
          obtain ⟨front, deeperKind, deeper, back, rfl, rfl, isBehind⟩ := later following isRest
          refine ⟨.lineBreak kind depth :: front, deeperKind, deeper, back, rfl, ?_, isBehind⟩
          rw [stretchesText_cons, String.toList_append, isBreak]
          rfl
  · rintro ⟨front, kind, depth, back, rfl, rfl, rfl⟩
    rw [stretchesText_append, stretchesText_cons, String.toList_append, Stretch.text,
      String.append_assoc, String.toList_append]
    rfl

/-- What is written for a drawing without an indent is made up of stretches, in which
line breaks stand where a list opens, behind its commas and where it closes. They are all of
its line feeds. With an indent it is the same text with the indent behind every line feed. -/
theorem rootExpression_indented (node : Node)
    (names : ∀ name ∈ elementNames node, '\n' ∉ name.toList) :
    (∀ indent, rootExpression indent node = indented indent (rootExpression "" node)) ∧
      ∃ depth,
        rootExpression "" node = stretchesText "" ((rootMeaning node).stretches depth) ∧
        ∀ before behind, (rootExpression "" node).toList = before ++ '\n' :: behind ↔
          ∃ front kind deeper back,
            (rootMeaning node).stretches depth = front ++ .lineBreak kind deeper :: back ∧
            before = (stretchesText "" front).toList ∧
            behind = (lineStart "" deeper ++ stretchesText "" back).toList := by
  obtain ⟨depth, laidOut⟩ := exists_layout_rootExpression node
  have unbroken := isUnbroken_rootMeaning names depth
  have isText (indent : String) :
      rootExpression indent node = stretchesText indent ((rootMeaning node).stretches depth) := by
    rw [laidOut, stretchesText_stretches]
  refine ⟨fun indent => ?_, depth, isText "", fun before behind => ?_⟩
  · rw [isText indent, isText "", indented_stretchesText indent unbroken]
  · rw [isText ""]
    exact stretchesText_cut_iff unbroken before

/-- A drawing with line feeds in a text, in an attribute's key and in its value. -/
def brokenTexts : Node :=
  .element "svg" Attributes.empty
    [.text "a\nb", .element "g" (Attributes.ofList [("x\n", "1\n")]) [.text "[", .text "]"]]

theorem rootExpression_indented_brokenTexts :
    (∀ name ∈ elementNames brokenTexts, '\n' ∉ name.toList) ∧
      rootExpression "\t" brokenTexts =
        "React.createElement(React.Fragment, null, [\n\t  \"a\\nb\",\n\t  " ++
          "React.createElement(SVG.G, \x7bkey: 1, \"x\\n\": \"1\\n\"\x7d, " ++
          "[\n\t    \"[\",\n\t    \"]\"\n\t  ])\n\t])" := by
  have names : ∀ name ∈ elementNames brokenTexts, '\n' ∉ name.toList := by decide
  refine ⟨names, ?_⟩
  rw [(rootExpression_indented brokenTexts names).1 "\t"]
  decide +kernel

end IconForge.Script.Reader
