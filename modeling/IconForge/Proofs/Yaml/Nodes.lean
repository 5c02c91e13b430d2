import IconForge.Proofs.Yaml.Page
import IconForge.Yaml.Node
import Mathlib.Data.List.Forall2

/-!
Contract: the documents that pages are.

Owns:
- which nodes are written in some way, wherever they stand;
- what the machine makes of the tokens of a value and of a field;
- that tokens without directives and tags are those of the document;
- the document of a page.

Main statements: `leads_writing`, `leads_entry`, `exists_root_of_page`.

Does not own: the tokens of a page, nor what a document is read as.
-/

namespace IconForge.Yaml

/-! ### What is written -/

def Node.IsText (isPlain : Bool) (text : String) (node : Node) : Prop :=
  ∃ mark, node = .text mark isPlain none text

def Node.IsTexts (texts : List String) (node : Node) : Prop :=
  ∃ mark items, node = .list mark items ∧ List.Forall₂ (Node.IsText false) texts items

def Writing.Shows : Writing → Node → Prop
  | quoted _ text, node => node.IsText false text.text
  | word _ text, node => node.IsText true text.text
  | brackets _ list, node => node.IsTexts list.texts
  | lines _ first more, node => node.IsTexts ((first :: more).map fun item => item.quoted.text)

def Field.Shows (field : Field) (pair : Node × Node) : Prop :=
  pair.1.IsText true field.name.text ∧ field.writing.Shows pair.2

def PageEntry.Shows : PageEntry → Node × Node → Prop
  | field simple, pair => simple.Shows pair
  | record _ name _ first more, pair =>
    pair.1.IsText true name.text ∧
      ∃ mark fields, pair.2 = .record mark fields ∧ List.Forall₂ Field.Shows (first :: more) fields

namespace Machine

/-! ### Runs -/

/-- Tokens of some kinds lead to a goal, wherever in a text they stand. -/
def Leads (machine : Machine) (kinds : List TokenKind) (goal : Machine → Prop) : Prop :=
  ∀ tokens, tokens.map Token.kind = kinds →
    ∃ reached, machine.run tokens = (reached, true) ∧ goal reached

/-- In front of any token but that of an item, two machines do the same. -/
def ActsLike (machine other : Machine) : Prop :=
  ∀ token, token.kind ≠ .item → machine.step? token = other.step? token

variable {machine other : Machine} {kind : TokenKind} {kinds more : List TokenKind}
  {goal between : Machine → Prop} {frames : List Frame} {head : Head} {mark : Mark}
  {fields : List (Node × Node)} {items : List Node} {key : Node}

theorem run_append (machine : Machine) (front back : List Token) :
    machine.run (front ++ back) =
      if (machine.run front).2 then (machine.run front).1.run back else machine.run front := by
  induction front generalizing machine with
  | nil => rfl
  | cons token rest inductionHypothesis =>
    rw [List.cons_append, run, run]
    cases machine.step? token with
    | none => rfl
    | some next => exact inductionHypothesis next

theorem Leads.append (first : machine.Leads kinds between)
    (second : ∀ reached, between reached → reached.Leads more goal) :
    machine.Leads (kinds ++ more) goal := by
  intro tokens areKinds
  obtain ⟨front, back, rfl, isFront, isBack⟩ := List.map_eq_append_iff.mp areKinds
  obtain ⟨reached, runs, isBetween⟩ := first front isFront
  obtain ⟨final, runsOn, isGoal⟩ := second reached isBetween back isBack
  refine ⟨final, ?_, isGoal⟩
  rw [run_append, runs]
  exact runsOn

theorem Leads.nil (isGoal : goal machine) : machine.Leads [] goal := by
  intro tokens areKinds
  rw [List.map_eq_nil_iff.mp areKinds]
  exact ⟨machine, rfl, isGoal⟩

theorem Leads.cons (steps : ∀ start stop, ∃ next,
    machine.step? ⟨kind, start, stop⟩ = some next ∧ next.Leads kinds goal) :
    machine.Leads (kind :: kinds) goal := by
  intro tokens areKinds
  obtain ⟨⟨_, start, stop⟩, rest, rfl, rfl, areRest⟩ := List.map_eq_cons_iff.mp areKinds
  obtain ⟨next, step, leads⟩ := steps start stop
  obtain ⟨reached, runs, isGoal⟩ := leads rest areRest
  refine ⟨reached, ?_, isGoal⟩
  rw [run, step]
  exact runs

theorem Leads.of_actsLike (acts : machine.ActsLike other) (notItem : kind ≠ .item)
    (leads : other.Leads (kind :: kinds) goal) : machine.Leads (kind :: kinds) goal := by
  intro tokens areKinds
  obtain ⟨token, rest, rfl, isKind, areRest⟩ := List.map_eq_cons_iff.mp areKinds
  obtain ⟨reached, runs, isGoal⟩ := leads (token :: rest) areKinds
  refine ⟨reached, ?_, isGoal⟩
  rw [run] at runs
  rw [run, acts token (isKind ▸ notItem)]
  cases step : other.step? token with
  | none =>
    rw [step] at runs
    cases runs
  | some next =>
    rw [step] at runs
    exact runs

theorem Leads.mono {weaker : Machine → Prop} (leads : machine.Leads kinds goal)
    (implies : ∀ reached, goal reached → weaker reached) : machine.Leads kinds weaker := by
  intro tokens areKinds
  obtain ⟨reached, runs, isGoal⟩ := leads tokens areKinds
  exact ⟨reached, runs, implies reached isGoal⟩

/-! ### Places in a record -/

/-- A machine that has read fields of a record, and more of them may follow. -/
def AwaitsField (head : Head) (frames : List Frame) (shows : List (Node × Node) → Prop)
    (machine : Machine) : Prop :=
  ∃ fields, shows fields ∧ machine.ActsLike ⟨.fields head fields, frames, []⟩

/-- The fields of a record to which one has been added whose value shows something. -/
def IsFilled (fields : List (Node × Node)) (key : Node) (shows : Node → Prop)
    (filled : List (Node × Node)) : Prop :=
  ∃ node, shows node ∧ filled = fields ++ [(key, node)]

theorem leads_text (isPlain : Bool) (text : String) :
    (⟨.node mark none none, .value head fields key :: frames, []⟩ : Machine).Leads
      [.text isPlain text]
      (AwaitsField head frames (IsFilled fields key (Node.IsText isPlain text))) := by
  exact .cons fun start _ => ⟨_, rfl, .nil ⟨_, ⟨_, ⟨start, rfl⟩, rfl⟩, fun _ _ => rfl⟩⟩

/-! ### Lists -/

/-- Where items of a list are due, each item stands behind a token of some kind. -/
def TakesItems (due : List Node → Due) (frames : List Frame) (opening : TokenKind) : Prop :=
  ∀ items start stop, ∃ between,
    (⟨due items, frames, []⟩ : Machine).step? ⟨opening, start, stop⟩ = some between ∧
      ∀ text start stop, between.step? ⟨.text false text, start, stop⟩ =
        some ⟨due (items ++ [.text start false none text]), frames, []⟩

/-- A list that has some texts, of which more items may follow. -/
def HasTexts (due : List Node → Due) (frames : List Frame) (texts : List String)
    (machine : Machine) : Prop :=
  ∃ items, List.Forall₂ (Node.IsText false) texts items ∧ machine = ⟨due items, frames, []⟩

section Lists

variable {due : List Node → Due} {opening : TokenKind} {given : List String}

/-- Items are added to a list one after another. -/
theorem TakesItems.leads (takes : TakesItems due frames opening) (texts : List String)
    (has : HasTexts due frames given machine) :
    machine.Leads (texts.flatMap fun text => [opening, .text false text])
      (HasTexts due frames (given ++ texts)) := by
  induction texts generalizing given machine with
  | nil =>
    refine .nil ?_
    rw [List.append_nil]
    exact has
  | cons text rest inductionHypothesis =>
    obtain ⟨items, shows, rfl⟩ := has
    refine .cons fun start stop => ?_
    obtain ⟨between, opens, completes⟩ := takes items start stop
    refine ⟨between, opens, .cons fun place stop => ⟨_, completes text place stop, ?_⟩⟩
    have one : List.Forall₂ (Node.IsText false) [text] [.text place false none text] :=
      .cons ⟨place, rfl⟩ .nil
    have onward := inductionHypothesis ⟨_, List.rel_append shows one, rfl⟩
    rw [List.append_assoc] at onward
    exact onward

theorem takesItems_brackets (start : Mark) :
    TakesItems (.bracketItems ⟨start, none⟩ · true) (.value head fields key :: frames) .comma :=
  fun _ _ _ => ⟨_, rfl, fun _ _ _ => rfl⟩

theorem takesItems_lines (start : Mark) :
    TakesItems (.items ⟨start, none⟩) (.value head fields key :: frames) .item :=
  fun _ _ _ => ⟨_, rfl, fun _ _ _ => rfl⟩

theorem takesItems_loose (start : Mark) :
    TakesItems (.looseItems ⟨start, none⟩) (.value head fields key :: frames) .item :=
  fun _ _ _ => ⟨_, rfl, fun _ _ _ => rfl⟩

/-- A list is whole behind the token that closes it. -/
theorem leads_closing (start : Mark) {closing : TokenKind}
    (closes : ∀ items place stop,
      (⟨due items, .value head fields key :: frames, []⟩ : Machine).step? ⟨closing, place, stop⟩ =
        some ⟨.fields head (fields ++ [(key, .list start items)]), frames, []⟩)
    (has : HasTexts due (.value head fields key :: frames) given machine) :
    machine.Leads [closing]
      (AwaitsField head frames (IsFilled fields key (Node.IsTexts given))) := by
  obtain ⟨items, shows, rfl⟩ := has
  exact .cons fun place stop => ⟨_, closes items place stop,
    .nil ⟨_, ⟨_, ⟨start, items, rfl, shows⟩, rfl⟩, fun _ _ => rfl⟩⟩

theorem leads_brackets (list : Brackets) :
    (⟨.node mark none none, .value head fields key :: frames, []⟩ : Machine).Leads list.kinds
      (AwaitsField head frames (IsFilled fields key (Node.IsTexts list.texts))) := by
  cases list with
  | empty space isSpace =>
    refine .cons fun start _ => ⟨_, rfl, ?_⟩
    have has : HasTexts (.bracketItems ⟨start, none⟩ · false) (.value head fields key :: frames) []
        ⟨.bracketItems ⟨start, none⟩ [] false, .value head fields key :: frames, []⟩ :=
      ⟨[], .nil, rfl⟩
    exact leads_closing start (fun _ _ _ => rfl) has
  | items first others =>
    have areKinds : others.flatMap BracketItem.kindsBehindComma =
        (others.map fun item => item.quoted.text).flatMap
          fun text => [.comma, .text false text] := by
      rw [List.flatMap_map]
      rfl
    refine .cons fun start _ => ⟨_, rfl, .cons fun place _ => ⟨_, rfl, ?_⟩⟩
    rw [areKinds]
    exact ((takesItems_brackets start).leads _ ⟨_, .cons ⟨place, rfl⟩ .nil, rfl⟩).append
      fun reached => leads_closing start fun _ _ _ => rfl

theorem leads_lines (further : Nat) (first : Item) (more : List Item) :
    (⟨.node mark none none, .value head fields key :: frames, []⟩ : Machine).Leads
      (Writing.lines further first more).kinds
      (AwaitsField head frames (IsFilled fields key
        (Node.IsTexts ((first :: more).map fun item => item.quoted.text)))) := by
  have areKinds (items : List Item) : items.flatMap Item.kinds =
      (items.map fun item => item.quoted.text).flatMap fun text => [.item, .text false text] := by
    rw [List.flatMap_map]
    rfl
  cases further with
  | zero =>
    -- What follows such a list ends it.
    change Leads _ (.item :: .text false first.quoted.text :: more.flatMap Item.kinds) _
    refine .cons fun start _ => ⟨_, rfl, .cons fun place _ => ⟨_, rfl, ?_⟩⟩
    rw [areKinds]
    refine ((takesItems_loose start).leads _ ⟨_, .cons ⟨place, rfl⟩ .nil, rfl⟩).mono ?_
    rintro reached ⟨items, shows, rfl⟩
    refine ⟨_, ⟨_, ⟨start, items, rfl, shows⟩, rfl⟩, fun token notItem => ?_⟩
    unfold step? skipNode skipLooseEnd
    simp only
    rw [if_neg (by simpa using notItem)]
    rfl
  | succ further =>
    refine .cons fun start _ => ⟨_, rfl, ?_⟩
    rw [areKinds]
    exact ((takesItems_lines start).leads _ ⟨[], .nil, rfl⟩).append fun reached =>
      leads_closing start fun _ _ _ => rfl

end Lists

/-! ### Values -/

/-- The tokens of a value make up a node that shows what is written. -/
theorem leads_writing (writing : Writing) :
    (⟨.node mark none none, .value head fields key :: frames, []⟩ : Machine).Leads writing.kinds
      (AwaitsField head frames (IsFilled fields key writing.Shows)) := by
  cases writing with
  | quoted gap text => exact leads_text false text.text
  | word gap text => exact leads_text true text.text
  | brackets gap list => exact leads_brackets list
  | lines further first more => exact leads_lines further first more

/-! ### Fields -/

/-- Behind a key and its colon a value is due. -/
theorem leads_key (name : String) (acts : machine.ActsLike ⟨.fields head fields, frames, []⟩) :
    machine.Leads [.key, .text true name, .value] fun reached => ∃ mark key,
      key.IsText true name ∧
        reached = ⟨.node mark none none, .value head fields key :: frames, []⟩ := by
  refine .of_actsLike acts nofun (.cons fun _ stop => ?_)
  refine ⟨⟨.node stop none none, .key head fields :: frames, []⟩, rfl, .cons fun place _ => ?_⟩
  refine ⟨⟨.fieldValue head fields (.text place true none name), frames, []⟩, rfl,
    .cons fun _ stop => ?_⟩
  exact ⟨_, rfl, .nil ⟨stop, _, ⟨place, rfl⟩, rfl⟩⟩

/-- The tokens of a field add it to those of its record. -/
theorem leads_field (field : Field) (acts : machine.ActsLike ⟨.fields head fields, frames, []⟩) :
    machine.Leads field.kinds (AwaitsField head frames fun filled =>
      ∃ pair, field.Shows pair ∧ filled = fields ++ [pair]) := by
  refine Leads.append (leads_key field.name.text acts) ?_
  rintro between ⟨mark, key, isKey, rfl⟩
  refine (leads_writing field.writing).mono ?_
  rintro reached ⟨filled, ⟨node, shows, isFilled⟩, actsBehind⟩
  exact ⟨filled, ⟨_, ⟨isKey, shows⟩, isFilled⟩, actsBehind⟩

/-- Fields are added one after another. -/
theorem leads_parts {α : Type} {kinds : α → List TokenKind} {shows : α → Node × Node → Prop}
    (each : ∀ part {machine : Machine} {fields},
      machine.ActsLike ⟨.fields head fields, frames, []⟩ →
      machine.Leads (kinds part) (AwaitsField head frames fun filled =>
        ∃ pair, shows part pair ∧ filled = fields ++ [pair]))
    (parts : List α) (acts : machine.ActsLike ⟨.fields head fields, frames, []⟩) :
    machine.Leads (parts.flatMap kinds) (AwaitsField head frames fun filled =>
      ∃ pairs, List.Forall₂ shows parts pairs ∧ filled = fields ++ pairs) := by
  induction parts generalizing machine fields with
  | nil => exact .nil ⟨fields, ⟨[], .nil, (List.append_nil _).symm⟩, acts⟩
  | cons part rest inductionHypothesis =>
    refine (each part acts).append ?_
    rintro between ⟨filled, ⟨pair, showsPair, rfl⟩, actsOn⟩
    refine (inductionHypothesis actsOn).mono ?_
    rintro reached ⟨filled, ⟨pairs, showsPairs, rfl⟩, actsBehind⟩
    exact ⟨_, ⟨pair :: pairs, .cons showsPair showsPairs, by simp⟩, actsBehind⟩

theorem leads_entry (entry : PageEntry)
    (acts : machine.ActsLike ⟨.fields head fields, frames, []⟩) :
    machine.Leads entry.kinds (AwaitsField head frames fun filled =>
      ∃ pair, entry.Shows pair ∧ filled = fields ++ [pair]) := by
  cases entry with
  | field simple => exact leads_field simple acts
  | record fillers name further first more =>
    refine Leads.append (leads_key name.text acts) ?_
    rintro between ⟨mark, key, isKey, rfl⟩
    refine .cons fun start _ => ?_
    refine ⟨⟨.fields ⟨start, none⟩ [], .value head fields key :: frames, []⟩, rfl,
      (leads_parts (fun field _ _ => leads_field field) (first :: more) fun _ _ => rfl).append ?_⟩
    rintro between ⟨filled, ⟨pairs, shows, isFilled⟩, actsOn⟩
    rw [isFilled, List.nil_append] at actsOn
    refine .of_actsLike actsOn nofun (.cons fun _ _ => ?_)
    exact ⟨_, rfl, .nil ⟨_, ⟨_, ⟨isKey, start, pairs, rfl, shows⟩, rfl⟩, fun _ _ => rfl⟩⟩

end Machine

/-! ### Documents -/

def Page.Shows (page : Page) (root : Option Node) : Prop :=
  match page.entries with
  | [] => root = none
  | first :: more =>
    ∃ mark fields, root = some (.record mark fields) ∧
      List.Forall₂ PageEntry.Shows (first :: more) fields

theorem Machine.leads_page (page : Page) :
    Machine.start.Leads page.kinds fun reached =>
      ∃ root, reached.due = .theEnd root ∧ page.Shows root := by
  unfold Page.kinds Page.Shows
  cases page.entries with
  | nil =>
    exact .cons fun _ _ => ⟨_, rfl, .nil ⟨none, rfl, rfl⟩⟩
  | cons first more =>
    refine .cons fun start _ => ?_
    refine ⟨⟨.fields ⟨start, none⟩ [], [], []⟩, rfl,
      (leads_parts (fun entry _ _ => leads_entry entry) (first :: more) fun _ _ => rfl).append ?_⟩
    rintro between ⟨filled, ⟨pairs, shows, isFilled⟩, acts⟩
    rw [isFilled, List.nil_append] at acts
    refine .of_actsLike acts nofun (.cons fun _ _ => ⟨_, rfl, .cons fun _ _ => ?_⟩)
    exact ⟨_, rfl, .nil ⟨_, rfl, start, pairs, rfl, shows⟩⟩

/-- Whether a token is neither a directive nor a tag. -/
def TokenKind.isUntagged : TokenKind → Bool
  | .directive _ => false
  | .tag _ _ => false
  | _ => true

theorem resolve_of_untagged {token : Token} (untagged : token.kind.isUntagged = true)
    (preamble : Preamble) : token.resolve preamble = token := by
  unfold Token.resolve
  cases isKind : token.kind with
  | tag handle name =>
    rw [isKind] at untagged
    cases untagged
  | _ => rfl

/-- Tokens without directives and tags are those of the document. -/
theorem openDocument?_of_untagged {tokens : List Token}
    (untagged : (tokens.map Token.kind).all TokenKind.isUntagged = true) :
    openDocument? tokens = some tokens := by
  have resolved : tokens.map (Token.resolve .empty) = tokens := by
    refine (List.map_congr_left fun token member => ?_).trans (List.map_id tokens)
    exact resolve_of_untagged (List.all_eq_true.mp untagged _ (List.mem_map_of_mem member)) .empty
  have taken : takeDirectives? .empty tokens = some (.empty, tokens) := by
    cases tokens with
    | nil => rfl
    | cons token rest =>
      rw [List.map_cons, List.all_cons, Bool.and_eq_true] at untagged
      unfold takeDirectives?
      split
      · next isKind =>
        rw [isKind] at untagged
        cases untagged.1
      · rfl
  unfold openDocument?
  rw [taken]
  exact congrArg some resolved

theorem isUntagged_writing (writing : Writing) :
    writing.kinds.all TokenKind.isUntagged = true := by
  cases writing with
  | quoted gap text => rfl
  | word gap text => rfl
  | brackets gap list =>
    cases list with
    | empty space isSpace => rfl
    | items first more =>
      simp [Writing.kinds, Brackets.kinds, BracketItem.kindsBehindComma, TokenKind.isUntagged]
  | lines further first more =>
    cases further <;> simp [Writing.kinds, Item.kinds, TokenKind.isUntagged]

theorem isUntagged_field (field : Field) : field.kinds.all TokenKind.isUntagged = true :=
  isUntagged_writing field.writing

theorem isUntagged_entry (entry : PageEntry) :
    entry.kinds.all TokenKind.isUntagged = true := by
  cases entry with
  | field simple => exact isUntagged_field simple
  | record fillers name further first more =>
    have fields : ((first :: more).flatMap Field.kinds).all TokenKind.isUntagged = true := by
      rw [List.all_flatMap, List.all_eq_true]
      exact fun field _ => isUntagged_field field
    simp only [PageEntry.kinds, List.all_cons, List.all_append, fields]
    rfl

theorem isUntagged_page (page : Page) : page.kinds.all TokenKind.isUntagged = true := by
  unfold Page.kinds
  cases page.entries with
  | nil => rfl
  | cons first more =>
    have entries : ((first :: more).flatMap PageEntry.kinds).all TokenKind.isUntagged = true := by
      rw [List.all_flatMap, List.all_eq_true]
      exact fun entry _ => isUntagged_entry entry
    simp only [List.all_cons, List.all_append, entries]
    rfl

/-- The document of a page is the record of its fields; a page without fields is a document
without a root. -/
theorem exists_root_of_page (page : Page) :
    ∃ root, Document.ofText (String.ofList page.chars) = ⟨root, true⟩ ∧ page.Shows root := by
  have areKinds := kinds_tokensOf_page page
  obtain ⟨reached, runs, root, isEnd, shows⟩ := Machine.leads_page page _ areKinds
  have isLast : (tokensOf page.chars).getLast?.map Token.kind = some .textEnd := by
    rw [← List.getLast?_map, areKinds]
    unfold Page.kinds
    split
    · rfl
    · next first more _ =>
      exact List.getLast?_append_of_ne_nil (.recordStart :: (first :: more).flatMap PageEntry.kinds)
        (List.cons_ne_nil _ _)
  refine ⟨root, ?_, shows⟩
  have opened : openDocument? (tokensOf page.chars) = some (tokensOf page.chars) :=
    openDocument?_of_untagged (areKinds ▸ isUntagged_page page)
  unfold Document.ofText
  rw [String.toList_ofList, if_pos (isAllowed_of_isPrinted (isPrinted_page page)), opened]
  simp only [Document.ofTokens, runs, isEnd, isLast, Bool.true_and, beq_self_eq_true]

end IconForge.Yaml
