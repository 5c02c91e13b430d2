import IconForge.Module.Decode
import IconForge.Module.Source
import IconForge.Proofs.Json5.Layout
import IconForge.Proofs.Svg.Attributes

/-!
Contract: a collection comes back from the source of its module.

Owns:
- the terms that nodes, entries, icons and collections are written as;
- that the source of each reads as its term, at every depth;
- that each term is decoded to what it was made from;
- the export around the list.

Main statement: `parse_source`.

Does not own: how texts are cut into tokens and tokens put together.
-/

namespace IconForge.Module

open IconForge.Json5
open IconForge.Script
open IconForge.Svg
open IconForge.Text

/-! ### Terms -/

/-- The term of a text. -/
def textTerm (text : String) : Term :=
  .string (literalPieces text)

/-- The term of an attribute list. -/
def attributesTerm (attributes : Attributes) : Term :=
  .object (attributes.entries.map fun pair => (keyPieces pair.1, textTerm pair.2))

mutual

/-- The term of a node. -/
def nodeTerm : Node → Term
  | .text value =>
    .object [(keyPieces "type", textTerm "text"), (keyPieces "value", textTerm value)]
  | .element name attributes children =>
    .object
      [(keyPieces "type", textTerm "element"), (keyPieces "name", textTerm name),
        (keyPieces "attributes", attributesTerm attributes),
        (keyPieces "children", .list (nodeTerms children))]

/-- The terms of nodes, in order. -/
def nodeTerms : List Node → List Term
  | [] => []
  | node :: rest => nodeTerm node :: nodeTerms rest

end

/-- The term of an entry. -/
def entryTerm (entry : Entry) : Term :=
  .object
    [(keyPieces "variant", textTerm entry.variant.name),
      (keyPieces "svg", nodeTerm entry.drawing)]

/-- The term of an icon. -/
def iconTerm (icon : Icon) : Term :=
  .object
    [(keyPieces "name", textTerm icon.name),
      (keyPieces "variants", .list (icon.entries.map entryTerm))]

/-! ### The source of a node reads as its term -/

theorem symbols?_pad_append (depth : Nat) (text : String) :
    symbols? (pad depth ++ text).toList = symbols? text.toList := by
  rw [String.toList_append, pad, String.toList_ofList]
  induction 2 * depth with
  | zero => rfl
  | succ count inductionHypothesis =>
    rw [List.replicate_succ, List.cons_append, symbols?_gap (by decide), inductionHypothesis]

theorem symbols?_pad (depth : Nat) : symbols? (pad depth).toList = some [] := by
  have padded := symbols?_pad_append depth ""
  rw [String.append_empty] at padded
  exact padded

/-- A member on a line of its own. -/
theorem readsMembers_line (depth : Nat) (name : String) {text : String} {term : Term}
    (reads : Reads text term) :
    ReadsMembers (pad depth ++ (key name ++ ": ") ++ text ++ ",\n") [(keyPieces name, term)] :=
  readsMembers_member _ _ name (symbols?_pad depth) reads rfl

theorem readsMembers_attributes (depth : Nat) (pairs : List (String × String)) :
    ReadsMembers
      (String.join (pairs.map fun pair =>
        pad depth ++ key pair.1 ++ ": " ++ literal pair.2 ++ ",\n"))
      (pairs.map fun pair => (keyPieces pair.1, textTerm pair.2)) := by
  induction pairs with
  | nil => exact readsMembers_nil
  | cons pair rest inductionHypothesis =>
    have line := readsMembers_line depth pair.1 (reads_literal pair.2)
    rw [← String.append_assoc] at line
    rw [List.map_cons, List.map_cons, String.join_cons]
    exact readsMembers_append line inductionHypothesis

theorem readsMembers_attributesSource (depth : Nat) (attributes : Attributes) :
    ReadsMembers (attributesSource depth attributes)
      [(keyPieces "attributes", attributesTerm attributes)] := by
  unfold attributesSource attributesTerm
  split
  · next isEmpty =>
    have braces : Reads "\x7b\x7d" (.object []) :=
      reads_object "\x7b" "\x7d" rfl readsMembers_nil rfl
    have line := readsMembers_line (depth + 1) "attributes" braces
    have label : "attributes: \x7b\x7d,\n" = key "attributes" ++ ": " ++ "\x7b\x7d" ++ ",\n" := by
      decide
    rw [List.isEmpty_iff.mp isEmpty, label]
    simp only [String.append_assoc] at line ⊢
    exact line
  · have object := reads_object "\x7b\n" (pad (depth + 1) ++ "\x7d") rfl
      (readsMembers_attributes (depth + 2) attributes.entries) (symbols?_pad_append _ _)
    have line := readsMembers_line (depth + 1) "attributes" object
    have label : "attributes: \x7b\n" = key "attributes" ++ ": " ++ "\x7b\n" := by decide
    have ending : "\x7d,\n" = "\x7d" ++ ",\n" := by decide
    rw [label, ending]
    simp only [String.append_assoc] at line ⊢
    exact line

/-- The field of the children, given that their lines read as their terms. -/
theorem readsMembers_childrenField (depth : Nat) {children : List Node}
    (reads : ReadsItems (childrenSource (depth + 2) children) (nodeTerms children)) :
    ReadsMembers
      (if children.isEmpty then
        pad (depth + 1) ++ "children: [],\n"
      else
        pad (depth + 1) ++ "children: [\n" ++ childrenSource (depth + 2) children ++
          pad (depth + 1) ++ "],\n")
      [(keyPieces "children", .list (nodeTerms children))] := by
  split
  · next isEmpty =>
    have brackets : Reads "[]" (.list []) :=
      reads_list "[" "]" rfl readsItems_nil rfl
    have line := readsMembers_line (depth + 1) "children" brackets
    have label : "children: [],\n" = key "children" ++ ": " ++ "[]" ++ ",\n" := by decide
    rw [List.isEmpty_iff.mp isEmpty, label]
    simp only [String.append_assoc] at line ⊢
    exact line
  · have list := reads_list "[\n" (pad (depth + 1) ++ "]") rfl reads
      (symbols?_pad_append _ _)
    have line := readsMembers_line (depth + 1) "children" list
    have label : "children: [\n" = key "children" ++ ": " ++ "[\n" := by decide
    have ending : "],\n" = "]" ++ ",\n" := by decide
    rw [label, ending]
    simp only [String.append_assoc] at line ⊢
    exact line

theorem reads_textSource (depth : Nat) (value : String) :
    Reads (nodeSource depth (.text value)) (nodeTerm (.text value)) := by
  have kind : ReadsMembers ("" ++ (key "type" ++ ": ") ++ literal "text" ++ ", ")
      [(keyPieces "type", textTerm "text")] :=
    readsMembers_member _ _ "type" rfl (reads_literal "text") rfl
  have object := reads_object_open "\x7b " " \x7d" "value" rfl kind
    (reads_literal value) rfl
  have label : "\x7b type: \"text\", value: " =
      "\x7b " ++ ("" ++ (key "type" ++ ": ") ++ literal "text" ++ ", ") ++
        (key "value" ++ ": ") := by decide
  unfold nodeSource
  rw [label]
  simp only [String.append_assoc] at object ⊢
  exact object

theorem reads_elementSource (depth : Nat) (name : String) (attributes : Attributes)
    {children : List Node}
    (reads : ReadsItems (childrenSource (depth + 2) children) (nodeTerms children)) :
    Reads (nodeSource depth (.element name attributes children))
      (nodeTerm (.element name attributes children)) := by
  have kind := readsMembers_line (depth + 1) "type" (reads_literal "element")
  have named := readsMembers_line (depth + 1) "name" (reads_literal name)
  have attributed := readsMembers_attributesSource depth attributes
  have filled := readsMembers_childrenField depth reads
  have members := readsMembers_append kind (readsMembers_append named
    (readsMembers_append attributed filled))
  have object := reads_object "\x7b\n" (pad depth ++ "\x7d") rfl members
    (symbols?_pad_append _ _)
  have kindLine : "type: \"element\",\n" = key "type" ++ ": " ++ literal "element" ++ ",\n" := by
    decide
  have nameLabel : "name: " = key "name" ++ ": " := by decide
  unfold nodeSource
  rw [kindLine, nameLabel]
  simp only [String.append_assoc] at object ⊢
  exact object

mutual

/-- The source of a node reads as its term at every depth. -/
theorem reads_nodeSource (depth : Nat) (node : Node) :
    Reads (nodeSource depth node) (nodeTerm node) := by
  cases node with
  | text value => exact reads_textSource depth value
  | element name attributes children =>
    exact reads_elementSource depth name attributes (readsItems_childrenSource (depth + 2) children)

/-- The lines of child nodes read as their terms. -/
theorem readsItems_childrenSource (depth : Nat) (nodes : List Node) :
    ReadsItems (childrenSource depth nodes) (nodeTerms nodes) := by
  cases nodes with
  | nil => exact readsItems_nil
  | cons node rest =>
    have item := readsItems_item _ ",\n" (symbols?_pad depth) (reads_nodeSource depth node) rfl
    exact readsItems_append item (readsItems_childrenSource depth rest)

end

/-! ### The source of a collection reads as its term -/

theorem reads_entryBody (entry : Entry) :
    Reads
      ("\x7b\n" ++ (pad 4 ++ (key "variant" ++ ": ") ++ literal entry.variant.name ++
        (",\n" ++ pad 4)) ++ (key "svg" ++ ": " ++ nodeSource 4 entry.drawing) ++
        ("\n" ++ pad 3 ++ "\x7d"))
      (entryTerm entry) := by
  have variant := readsMembers_member _ (",\n" ++ pad 4) "variant" (symbols?_pad 4)
    (reads_literal entry.variant.name) (by decide)
  exact reads_object_open _ _ "svg" rfl variant (reads_nodeSource 4 entry.drawing) (by decide)

theorem readsItems_entrySource (entry : Entry) :
    ReadsItems (entrySource entry) [entryTerm entry] := by
  have item := readsItems_item _ ",\n" (symbols?_pad 3) (reads_entryBody entry) rfl
  have variantLabel : "variant: " = key "variant" ++ ": " := by decide
  have drawingLabel : "svg: " = key "svg" ++ ": " := by decide
  have ending : "\x7d,\n" = "\x7d" ++ ",\n" := by decide
  unfold entrySource
  rw [variantLabel, drawingLabel, ending]
  simp only [String.append_assoc] at item ⊢
  exact item

/-- Items that are written one after the other. -/
theorem readsItems_join {α : Type} {write : α → String} {term : α → Term}
    (each : ∀ value, ReadsItems (write value) [term value]) (values : List α) :
    ReadsItems (String.join (values.map write)) (values.map term) := by
  induction values with
  | nil => exact readsItems_nil
  | cons value rest inductionHypothesis =>
    rw [List.map_cons, List.map_cons, String.join_cons]
    exact readsItems_append (each value) inductionHypothesis

theorem readsItems_iconSource (icon : Icon) : ReadsItems (iconSource icon) [iconTerm icon] := by
  have named := readsMembers_line 2 "name" (reads_literal icon.name)
  have list := reads_list "[\n" (pad 2 ++ "]") rfl
    (readsItems_join readsItems_entrySource icon.entries) (by decide)
  have listed := readsMembers_line 2 "variants" list
  have object := reads_object "\x7b\n" (pad 1 ++ "\x7d") rfl
    (readsMembers_append named listed) (by decide)
  have item := readsItems_item _ ",\n" (symbols?_pad 1) object rfl
  have nameLabel : "name: " = key "name" ++ ": " := by decide
  have listLabel : "variants: [\n" = key "variants" ++ ": " ++ "[\n" := by decide
  have listEnding : "],\n" = "]" ++ ",\n" := by decide
  have ending : "\x7d,\n" = "\x7d" ++ ",\n" := by decide
  unfold iconSource
  rw [nameLabel, listLabel, listEnding, ending]
  simp only [String.append_assoc] at item ⊢
  exact item

/-- The list that the source of a module exports. -/
def listSource (collection : Collection) : String :=
  "[\n" ++ String.join (collection.map iconSource) ++ "]"

theorem reads_listSource (collection : Collection) :
    Reads (listSource collection) (.list (collection.map iconTerm)) :=
  reads_list _ _ rfl (readsItems_join readsItems_iconSource collection) rfl

/-! ### Terms are decoded to what they were made from -/

/-- The value of a text. -/
def textValue (text : String) : Value :=
  .scalar (.string text)

/-- The value of an attribute list. -/
def attributesValue (attributes : Attributes) : Value :=
  .object (attributes.entries.map fun pair => (pair.1, textValue pair.2))

mutual

/-- The value of a node. -/
def nodeValue : Node → Value
  | .text value => .object [("type", textValue "text"), ("value", textValue value)]
  | .element name attributes children =>
    .object
      [("type", textValue "element"), ("name", textValue name),
        ("attributes", attributesValue attributes), ("children", .list (nodeValues children))]

/-- The values of nodes, in order. -/
def nodeValues : List Node → List Value
  | [] => []
  | node :: rest => nodeValue node :: nodeValues rest

end

theorem value_textTerm (text : String) : (textTerm text).value = .ok (textValue text) := by
  rw [textTerm, Term.value, stringOf_literalPieces]
  rfl

theorem view_textTerm (text : String) :
    (textTerm text).view = .ok (.scalar (.string text)) := by
  rw [textTerm, Term.view, stringOf_literalPieces]
  rfl

theorem memberValues_attributes (pairs : List (String × String)) :
    Term.memberValues (pairs.map fun pair => (keyPieces pair.1, textTerm pair.2)) =
      .ok (pairs.map fun pair => (pair.1, textValue pair.2)) := by
  induction pairs with
  | nil => rfl
  | cons pair rest inductionHypothesis =>
    rw [List.map_cons, Term.memberValues, stringOf_keyPieces, value_textTerm, inductionHypothesis]
    rfl

theorem value_attributesTerm (attributes : Attributes) :
    (attributesTerm attributes).value = .ok (attributesValue attributes) := by
  rw [attributesTerm, Term.value, memberValues_attributes]
  rfl

mutual

theorem value_nodeTerm (node : Node) : (nodeTerm node).value = .ok (nodeValue node) := by
  cases node with
  | text value =>
    simp only [nodeTerm, nodeValue, Term.value, Term.memberValues, stringOf_keyPieces,
      value_textTerm]
    rfl
  | element name attributes children =>
    simp only [nodeTerm, nodeValue, Term.value, Term.memberValues, stringOf_keyPieces,
      value_textTerm, value_attributesTerm, values_nodeTerms children]
    rfl

theorem values_nodeTerms (nodes : List Node) :
    Term.values (nodeTerms nodes) = .ok (nodeValues nodes) := by
  cases nodes with
  | nil => rfl
  | cons node rest =>
    rw [nodeTerms, Term.values, value_nodeTerm node, values_nodeTerms rest]
    rfl

end

theorem memberAttributes_map (attributes : Attributes) (pairs : List (String × String)) :
    memberAttributes attributes (pairs.map fun pair => (pair.1, textValue pair.2)) =
      .ok (pairs.foldl (fun attributes pair => attributes.insert pair.1 pair.2) attributes) := by
  induction pairs generalizing attributes with
  | nil => rfl
  | cons pair rest inductionHypothesis =>
    rw [List.map_cons, memberAttributes]
    exact inductionHypothesis (attributes.insert pair.1 pair.2)

theorem valueAttributes_attributesValue (attributes : Attributes) :
    valueAttributes (attributesValue attributes) = .ok attributes := by
  rw [attributesValue, valueAttributes, memberAttributes_map]
  exact congrArg Except.ok (Attributes.ofList_entries attributes)

theorem memberFields_element (name : String) (attributes : Attributes) {children : List Node}
    {value : Value} (decoded : valueChildren value = .ok children) :
    memberFields .element NodeFields.none [("name", textValue name),
        ("attributes", attributesValue attributes), ("children", value)] =
      .ok ⟨some name, some attributes, some children, none⟩ := by
  simp only [memberFields, NodeFields.none, fill, textValue, valueString,
    valueAttributes_attributesValue, decoded]
  rfl

mutual

theorem valueNode_nodeValue (node : Node) : valueNode (nodeValue node) = .ok node := by
  cases node with
  | text value =>
    rw [nodeValue, valueNode]
    rfl
  | element name attributes children =>
    have decoded : valueChildren (.list (nodeValues children)) = .ok children := by
      rw [valueChildren, valueNodes_nodeValues children]
    have fields := memberFields_element name attributes decoded
    rw [nodeValue, valueNode]
    change (memberFields .element NodeFields.none [("name", textValue name),
      ("attributes", attributesValue attributes),
      ("children", .list (nodeValues children))]).bind _ = _
    rw [fields]
    rfl

theorem valueNodes_nodeValues (nodes : List Node) : valueNodes (nodeValues nodes) = .ok nodes := by
  cases nodes with
  | nil => rw [nodeValues, valueNodes]
  | cons node rest =>
    rw [nodeValues, valueNodes, valueNode_nodeValue node, valueNodes_nodeValues rest]
    rfl

end

theorem termKind_textTerm (name : String) : termKind (textTerm name) = NodeKind.ofName name := by
  rw [termKind, view_textTerm]
  rfl

theorem termNode_nodeTerm (node : Node) : termNode (nodeTerm node) = .ok node := by
  cases node with
  | text value =>
    have members : termMembers none [(keyPieces "type", textTerm "text"),
        (keyPieces "value", textTerm value)] = .ok (some .text, [("value", textValue value)]) := by
      simp only [termMembers, stringOf_keyPieces, termKind_textTerm, value_textTerm]
      rfl
    rw [nodeTerm, termNode]
    change (termMembers none _).bind _ = _
    rw [members]
    rfl
  | element name attributes children =>
    have decoded : valueChildren (.list (nodeValues children)) = .ok children := by
      rw [valueChildren, valueNodes_nodeValues children]
    have members : termMembers none [(keyPieces "type", textTerm "element"),
        (keyPieces "name", textTerm name), (keyPieces "attributes", attributesTerm attributes),
        (keyPieces "children", .list (nodeTerms children))] =
        .ok (some .element, [("name", textValue name),
          ("attributes", attributesValue attributes),
          ("children", .list (nodeValues children))]) := by
      simp only [termMembers, stringOf_keyPieces, termKind_textTerm, value_textTerm,
        value_attributesTerm, Term.value, values_nodeTerms]
      rfl
    rw [nodeTerm, termNode]
    change (termMembers none _).bind _ = _
    rw [members]
    change (memberFields .element NodeFields.none _).bind _ = _
    rw [memberFields_element name attributes decoded]
    rfl

theorem variantOfName_name (variant : Variant) : variantOfName variant.name = .ok variant := by
  cases variant <;> rfl

theorem termVariant_textTerm (name : String) :
    termVariant (textTerm name) = variantOfName name := by
  rw [textTerm, termVariant, stringOf_literalPieces]
  rfl

theorem termString_textTerm (text : String) : termString (textTerm text) = .ok text := by
  rw [termString, view_textTerm]
  rfl

theorem termPair_object {α β : Type} (expected firstName secondName : String)
    {readFirst : Term → Decoded α} {readSecond : Term → Decoded β} {firstTerm secondTerm : Term}
    {first : α} {second : β} (differ : secondName ≠ firstName)
    (readsFirst : readFirst firstTerm = .ok first)
    (readsSecond : readSecond secondTerm = .ok second) :
    termPair expected firstName secondName readFirst readSecond
      (.object [(keyPieces firstName, firstTerm), (keyPieces secondName, secondTerm)]) =
        .ok (first, second) := by
  have members : memberPair firstName secondName readFirst readSecond none none
      [(keyPieces firstName, firstTerm), (keyPieces secondName, secondTerm)] =
      .ok (some first, some second) := by
    simp only [memberPair, stringOf_keyPieces, liftScalar, bind, Except.bind, if_true,
      if_neg differ, fill, readsFirst, readsSecond]
    rfl
  rw [termPair]
  change (memberPair firstName secondName readFirst readSecond none none _).bind _ = _
  rw [members]
  rfl

theorem termEntry_entryTerm (entry : Entry) : termEntry (entryTerm entry) = .ok entry := by
  rw [termEntry, entryTerm, termPair_object _ _ _ (by decide)
    ((termVariant_textTerm _).trans (variantOfName_name _)) (termNode_nodeTerm _)]
  rfl

theorem mapM_map {α : Type} {write : α → Term} {read : Term → Decoded α}
    (each : ∀ value, read (write value) = .ok value) (values : List α) :
    (values.map write).mapM read = .ok values := by
  induction values with
  | nil => rfl
  | cons value rest inductionHypothesis =>
    rw [List.map_cons, List.mapM_cons, each, inductionHypothesis]
    rfl

theorem termList_list {α : Type} {write : α → Term} {read : Term → Decoded α}
    (each : ∀ value, read (write value) = .ok value) (values : List α) :
    termList read (.list (values.map write)) = .ok values := by
  rw [termList]
  exact mapM_map each values

theorem termIcon_iconTerm (icon : Icon) : termIcon (iconTerm icon) = .ok icon := by
  rw [termIcon, iconTerm, termPair_object _ _ _ (by decide) (termString_textTerm _)
    (termList_list termEntry_entryTerm _)]
  rfl

/-! ### The export -/

theorem dropStart?_append (start text : List Char) :
    dropStart? start (start ++ text) = some text :=
  dropStart?_eq_some_iff.mpr rfl

theorem dropEnding_append (ending : String) (text : List Char) :
    dropEnding ending (text ++ ending.toList) = text := by
  rw [dropEnding, dropEnd?, List.reverse_append, dropStart?_append, Option.map_some,
    List.reverse_reverse, Option.getD_some]

theorem trimEnd_visible (c : Char) (visible : isBlank c = false) (text : List Char) :
    trimEnd (text ++ [c]) = text ++ [c] := by
  rw [trimEnd, dropEndWhile, List.reverse_append, List.reverse_singleton, List.singleton_append,
    List.dropWhile_cons_of_neg (by simp [visible]), List.reverse_cons, List.reverse_reverse]

theorem trimEnd_blank (c : Char) (blank : isBlank c = true) (text : List Char) :
    trimEnd (text ++ [c]) = trimEnd text := by
  rw [trimEnd, dropEndWhile, List.reverse_append, List.reverse_singleton, List.singleton_append,
    List.dropWhile_cons_of_pos blank]
  rfl

theorem trim_visible (first last : Char) (firstVisible : isBlank first = false)
    (lastVisible : isBlank last = false) (text : List Char) :
    trim (first :: (text ++ [last])) = first :: (text ++ [last]) := by
  rw [trim, List.dropWhile_cons_of_neg (by simp [firstVisible])]
  exact trimEnd_visible last lastVisible (first :: text)

/-- The export and what stands around the list are taken away. -/
theorem exported?_list (inside : List Char) :
    exported? ("export default [".toList ++ inside ++ "] as const;\n".toList) =
      some ('[' :: (inside ++ [']'])) := by
  have trimmed : trim ("export default [".toList ++ inside ++ "] as const;\n".toList) =
      "export default".toList ++ (' ' :: '[' :: (inside ++ "] as const;".toList)) := by
    have source : "export default [".toList ++ inside ++ "] as const;\n".toList =
        'e' :: ("xport default [".toList ++ inside ++ "] as const".toList ++ [';']) ++ ['\n'] := by
      simp
    rw [source, trim, List.cons_append, List.dropWhile_cons_of_neg (by decide), ← List.cons_append,
      trimEnd_blank _ (by decide), ← List.cons_append, trimEnd_visible _ (by decide)]
    simp
  have body : trim (' ' :: '[' :: (inside ++ "] as const;".toList)) =
      '[' :: (inside ++ "] as const".toList) ++ ";".toList := by
    have ending : "] as const;".toList = "] as const".toList ++ [';'] := by decide
    have visible := trim_visible '[' ';' (by decide) (by decide)
      (inside ++ "] as const".toList)
    rw [trim, List.dropWhile_cons_of_pos (by decide), ending, ← List.append_assoc]
    exact visible
  have unended : trimEnd ('[' :: (inside ++ "] as const".toList)) =
      '[' :: (inside ++ "] ".toList) ++ "as const".toList := by
    have visible := trimEnd_visible 't' (by decide) ('[' :: (inside ++ "] as cons".toList))
    rw [List.cons_append, List.append_assoc] at visible
    rw [List.cons_append, List.append_assoc]
    exact visible
  have list : trimEnd ('[' :: (inside ++ "] ".toList)) = '[' :: (inside ++ [']']) := by
    have blank := trimEnd_blank ' ' (by decide) ('[' :: (inside ++ [']']))
    have visible := trimEnd_visible ']' (by decide) ('[' :: inside)
    rw [List.cons_append, List.append_assoc] at blank
    exact blank.trans visible
  rw [exported?, trimmed, dropStart?_append]
  simp only [Option.bind_eq_bind, Option.bind_some, body, dropEnding_append, unended, list]
  rfl

/-- What is exported from the source of a collection's module is its list. -/
theorem exported?_source (collection : Collection) :
    exported? (source collection).toList = some (listSource collection).toList := by
  have inside : (listSource collection).toList =
      '[' :: ('\n' :: (String.join (collection.map iconSource)).toList ++ [']']) := by
    unfold listSource
    simp
  have whole : (source collection).toList = "export default [".toList ++
      ('\n' :: (String.join (collection.map iconSource)).toList) ++ "] as const;\n".toList := by
    unfold source
    simp
  rw [whole, inside]
  exact exported?_list _

/-- Every collection comes back from the source of its module: the same icons
and entries, and in every element the same attributes and children, all in the
same order. -/
theorem parse_source (collection : Collection) : parse (source collection) = .ok collection := by
  have exported := exported?_source collection
  have term := parse?_of_reads (reads_listSource collection)
  have decoded : termCollection (.list (collection.map iconTerm)) = .ok collection :=
    termList_list termIcon_iconTerm collection
  unfold parse
  simp only [exported, term, decoded]

end IconForge.Module
