import IconForge.Module.Decode
import IconForge.Proofs.Icon.Insertion
import IconForge.Proofs.Outcome

/-!
Contract: collections that are read as their modules list them.

Owns:
- the outline of a module, which is its names and variants as its text lists them;
- that reading a module keeps its outline, and so makes nothing canonical that is not.

Main statement: `canonical_iff_outline`.

Does not own: the drawings in a module, and what gathering makes canonical.
-/

namespace IconForge.Module

open IconForge.Json5
open IconForge.Text

/-! ### Outlines -/

/-- The name of an icon and the names of its variants, in the order in which they are listed. -/
structure IconOutline where
  name : String
  variants : List String
deriving DecidableEq, Repr

/-- The names of the icons differ, and the variants of each come in canonical order, some of
them left out. -/
structure IsCanonicalOutline (icons : List IconOutline) : Prop where
  distinct : (icons.map IconOutline.name).Nodup
  inOrder : ∀ icon ∈ icons, icon.variants.Sublist (Variant.all.map Variant.name)

/-- The term of the first member with a name. -/
def member? (name : String) (members : List (List Piece × Term)) : Option Term :=
  (members.find? fun member => (stringOf member.1).toOption == some name).map Prod.snd

/-- A part of a record: the member with its name, or the item in its place. -/
def part? (name : String) (place : Nat) : Term → Option Term
  | .object members => member? name members
  | .list items => items[place]?
  | _ => none

def text? : Term → Option String
  | .string pieces => (stringOf pieces).toOption
  | _ => none

def items? : Term → Option (List Term)
  | .list items => some items
  | _ => none

/-- The name that a variant is given by: a text, or the first key of an object. -/
def variantName? : Term → Option String
  | .string pieces => (stringOf pieces).toOption
  | .object ((pieces, _) :: _) => (stringOf pieces).toOption
  | _ => none

def iconOutline? (term : Term) : Option IconOutline := do
  let name ← (part? "name" 0 term).bind text?
  let entries ← (part? "variants" 1 term).bind items?
  let variants ← entries.mapM fun entry => (part? "variant" 0 entry).bind variantName?
  some ⟨name, variants⟩

/-- The outline of a module, without regard to what else the module has to say. -/
def outline? (source : String) : Option (List IconOutline) := do
  let body ← exported? source.toList
  let term ← Term.parse? body
  let icons ← items? term
  icons.mapM iconOutline?

def outline (icon : Icon) : IconOutline where
  name := icon.name
  variants := icon.entries.map fun entry => entry.variant.name

variable {α β : Type} {name firstName secondName expected source : String} {term : Term}
  {members : List (List Piece × Term)} {read : Term → Decoded α}
  {readFirst : Term → Decoded α} {readSecond : Term → Decoded β}
  {before between after : Option α}

/-! ### Records -/

theorem liftScalar_eq_ok_iff {read : Except ScalarError α} {value : α} :
    liftScalar read = .ok value ↔ read = .ok value := by
  cases read with
  | error cause => exact iff_of_false nofun nofun
  | ok found => simp [liftScalar]

/-- A field that holds something behind some members held it before, or held nothing and is
read from the member with its name. -/
def Fills (name : String) (read : Term → Decoded α) (members : List (List Piece × Term))
    (before after : Option α) : Prop :=
  ∀ value, after = some value → before = some value ∨
    before = none ∧ ∃ term, member? name members = some term ∧ read term = .ok value

theorem fills_of_fill {pieces : List Piece} (named : stringOf pieces = .ok name)
    (filled : fill name before (read term) = .ok between)
    (fills : Fills name read members between after) :
    Fills name read ((pieces, term) :: members) before after := by
  cases before with
  | some old => cases filled
  | none =>
    obtain ⟨found, isRead, isBetween⟩ := map_eq_ok_iff.mp filled
    subst isBetween
    intro value isAfter
    obtain isFound | ⟨isNone, -⟩ := fills value isAfter
    · cases isFound
      refine .inr ⟨rfl, term, ?_, isRead⟩
      rw [member?, List.find?_cons_of_pos (by simp [named, Except.toOption])]
      rfl
    · cases isNone

theorem fills_of_other {pieces : List Piece} {key : String} (named : stringOf pieces = .ok key)
    (differs : key ≠ name) (fills : Fills name read members before after) :
    Fills name read ((pieces, term) :: members) before after := by
  have sameMember : member? name ((pieces, term) :: members) = member? name members := by
    rw [member?, List.find?_cons_of_neg (by simpa [named, Except.toOption] using differs), member?]
  intro value isAfter
  rw [sameMember]
  exact fills value isAfter

theorem fills_of_memberPair (different : firstName ≠ secondName) {first : Option α}
    {second : Option β} {pair : Option α × Option β}
    (areRead : memberPair firstName secondName readFirst readSecond first second members =
      .ok pair) :
    Fills firstName readFirst members first pair.1 ∧
      Fills secondName readSecond members second pair.2 := by
  induction members generalizing first second with
  | nil =>
    cases areRead
    exact ⟨fun _ same => .inl same, fun _ same => .inl same⟩
  | cons member rest inductionHypothesis =>
    obtain ⟨pieces, term⟩ := member
    obtain ⟨key, keyRead, restRead⟩ := bind_eq_ok_iff.mp areRead
    have named := liftScalar_eq_ok_iff.mp keyRead
    by_cases isFirst : key = firstName
    · subst isFirst
      rw [if_pos rfl] at restRead
      obtain ⟨filled, isFilled, othersRead⟩ := bind_eq_ok_iff.mp restRead
      obtain ⟨firstFills, secondFills⟩ := inductionHypothesis othersRead
      exact ⟨fills_of_fill named isFilled firstFills, fills_of_other named different secondFills⟩
    · rw [if_neg isFirst] at restRead
      by_cases isSecond : key = secondName
      · subst isSecond
        rw [if_pos rfl] at restRead
        obtain ⟨filled, isFilled, othersRead⟩ := bind_eq_ok_iff.mp restRead
        obtain ⟨firstFills, secondFills⟩ := inductionHypothesis othersRead
        exact ⟨fills_of_other named isFirst firstFills, fills_of_fill named isFilled secondFills⟩
      · rw [if_neg isSecond] at restRead
        obtain ⟨value, -, othersRead⟩ := bind_eq_ok_iff.mp restRead
        obtain ⟨firstFills, secondFills⟩ := inductionHypothesis othersRead
        exact ⟨fills_of_other named isFirst firstFills,
          fills_of_other named isSecond secondFills⟩

theorem eq_some_of_require {present : Option α} {value : α}
    (required : require name present = .ok value) : present = some value := by
  cases present with
  | none => cases required
  | some found =>
    cases required
    rfl

theorem Fills.exists_member {value : α} (fills : Fills name read members none after)
    (required : require name after = .ok value) :
    ∃ term, member? name members = some term ∧ read term = .ok value := by
  obtain held | ⟨-, found⟩ := fills value (eq_some_of_require required)
  · cases held
  · exact found

/-! ### Terms that are looked at -/

/-- What a term is found to be is a scalar, or the parts that it is written with. -/
theorem view_cases {view : View} (viewed : term.view = .ok view) :
    (∃ value, view = .scalar value) ∨ (∃ items, term = .list items ∧ view = .list items) ∨
      ∃ members, term = .object members ∧ view = .object members := by
  cases term with
  | list items =>
    cases viewed
    exact .inr (.inl ⟨items, rfl, rfl⟩)
  | object members =>
    cases viewed
    exact .inr (.inr ⟨members, rfl, rfl⟩)
  | number text =>
    obtain ⟨value, -, isView⟩ := map_eq_ok_iff.mp viewed
    exact .inl ⟨value, isView.symm⟩
  | string pieces =>
    obtain ⟨value, -, isView⟩ := map_eq_ok_iff.mp viewed
    exact .inl ⟨.string value, isView.symm⟩
  | null =>
    cases viewed
    exact .inl ⟨.null, rfl⟩
  | boolean value =>
    cases viewed
    exact .inl ⟨.boolean value, rfl⟩

theorem readNumber_ne_string {number : List Char} {text : String} :
    readNumber number ≠ .ok (.string text) := by
  intro isRead
  unfold readNumber at isRead
  split at isRead
  · cases (map_eq_ok_iff.mp isRead).choose_spec.2
  · cases (map_eq_ok_iff.mp isRead).choose_spec.2

theorem text?_of_view {text : String} (viewed : term.view = .ok (.scalar (.string text))) :
    text? term = some text := by
  cases term with
  | string pieces =>
    obtain ⟨spelt, isSpelt, same⟩ := map_eq_ok_iff.mp viewed
    cases same
    rw [text?, isSpelt]
    rfl
  | number written =>
    obtain ⟨found, isFound, same⟩ := map_eq_ok_iff.mp viewed
    cases same
    exact absurd isFound readNumber_ne_string
  | null => cases viewed
  | boolean value => cases viewed
  | list found => cases viewed
  | object found => cases viewed

/-- The two parts of a record are read from the terms that stand for them. -/
theorem parts_of_termPair (different : firstName ≠ secondName) {first : α} {second : β}
    (isRead : termPair expected firstName secondName readFirst readSecond term =
      .ok (first, second)) :
    (∃ part, part? firstName 0 term = some part ∧ readFirst part = .ok first) ∧
      ∃ part, part? secondName 1 term = some part ∧ readSecond part = .ok second := by
  obtain ⟨view, viewed, viewRead⟩ := bind_eq_ok_iff.mp isRead
  rcases view_cases (liftScalar_eq_ok_iff.mp viewed) with
    ⟨value, rfl⟩ | ⟨items, rfl, rfl⟩ | ⟨members, rfl, rfl⟩
  · cases viewRead
  · match items with
    | [] => cases viewRead
    | [only] =>
      obtain ⟨-, -, wrong⟩ := bind_eq_ok_iff.mp viewRead
      cases wrong
    | firstItem :: secondItem :: rest =>
      obtain ⟨foundFirst, firstRead, restRead⟩ := bind_eq_ok_iff.mp viewRead
      obtain ⟨foundSecond, secondRead, together⟩ := bind_eq_ok_iff.mp restRead
      cases together
      exact ⟨⟨firstItem, rfl, firstRead⟩, secondItem, rfl, secondRead⟩
  · obtain ⟨pair, membersRead, pairRead⟩ := bind_eq_ok_iff.mp viewRead
    obtain ⟨foundFirst, firstRequired, restRead⟩ := bind_eq_ok_iff.mp pairRead
    obtain ⟨foundSecond, secondRequired, together⟩ := bind_eq_ok_iff.mp restRead
    cases together
    obtain ⟨firstFills, secondFills⟩ := fills_of_memberPair different membersRead
    exact ⟨firstFills.exists_member firstRequired, secondFills.exists_member secondRequired⟩

/-! ### Reading keeps the outline -/

theorem text?_of_termString {text : String} (isRead : termString term = .ok text) :
    text? term = some text := by
  obtain ⟨view, viewed, viewRead⟩ := bind_eq_ok_iff.mp isRead
  have isView := liftScalar_eq_ok_iff.mp viewed
  split at viewRead
  · cases viewRead
    exact text?_of_view isView
  · cases viewRead

theorem items?_of_termList {items : List α} (isRead : termList read term = .ok items) :
    ∃ terms, items? term = some terms ∧ terms.mapM read = .ok items := by
  obtain ⟨view, viewed, viewRead⟩ := bind_eq_ok_iff.mp isRead
  rcases view_cases (liftScalar_eq_ok_iff.mp viewed) with
    ⟨value, rfl⟩ | ⟨terms, rfl, rfl⟩ | ⟨members, rfl, rfl⟩
  · cases viewRead
  · exact ⟨terms, rfl, viewRead⟩
  · cases viewRead

theorem name_of_variantOfName {text : String} {variant : Variant}
    (known : variantOfName text = .ok variant) : variant.name = text := by
  unfold variantOfName at known
  split at known
  · next found isFound =>
    cases known
    simpa using List.find?_some isFound
  · cases known

theorem variantName?_of_termVariant {variant : Variant} (isRead : termVariant term = .ok variant) :
    variantName? term = some variant.name := by
  have spelt {pieces : List Piece}
      (named : (liftScalar (stringOf pieces) >>= variantOfName) = .ok variant) :
      (stringOf pieces).toOption = some variant.name := by
    obtain ⟨name, nameRead, known⟩ := bind_eq_ok_iff.mp named
    rw [liftScalar_eq_ok_iff.mp nameRead, name_of_variantOfName known]
    rfl
  unfold termVariant at isRead
  split at isRead
  · exact spelt isRead
  · cases isRead
  · exact spelt isRead
  · cases isRead

theorem variantName?_of_termEntry {entry : Entry} (isRead : termEntry term = .ok entry) :
    (part? "variant" 0 term).bind variantName? = some entry.variant.name := by
  obtain ⟨⟨variant, drawing⟩, pairRead, together⟩ := bind_eq_ok_iff.mp isRead
  cases together
  obtain ⟨⟨part, isPart, variantRead⟩, -⟩ := parts_of_termPair (by decide) pairRead
  rw [isPart, Option.bind_some, variantName?_of_termVariant variantRead]

theorem iconOutline?_of_termIcon {icon : Icon} (isRead : termIcon term = .ok icon) :
    iconOutline? term = some (outline icon) := by
  obtain ⟨⟨name, entries⟩, pairRead, together⟩ := bind_eq_ok_iff.mp isRead
  cases together
  obtain ⟨⟨namePart, isNamePart, nameRead⟩, variantsPart, isVariantsPart, entriesRead⟩ :=
    parts_of_termPair (by decide) pairRead
  obtain ⟨terms, areTerms, termsRead⟩ := items?_of_termList entriesRead
  have variants := mapM_eq_some_of_eq_ok (fun _ _ => variantName?_of_termEntry) termsRead
  rw [iconOutline?, isNamePart, isVariantsPart, Option.bind_some, Option.bind_some,
    text?_of_termString nameRead, areTerms]
  simp only [bind, Option.bind_some, variants, outline]

/-- A module is read as its text lists the icons and their variants: nothing is left out,
put together or brought into order. -/
theorem outline?_of_parse {collection : Collection} (isRead : parse source = .ok collection) :
    outline? source = some (collection.map outline) := by
  unfold parse at isRead
  split at isRead
  · cases isRead
  · next body isBody =>
    split at isRead
    · cases isRead
    · next term isTerm =>
      split at isRead
      · next found termRead =>
        cases isRead
        obtain ⟨terms, areTerms, termsRead⟩ := items?_of_termList termRead
        have icons := mapM_eq_some_of_eq_ok (fun _ _ => iconOutline?_of_termIcon) termsRead
        rw [outline?, isBody]
        change (Term.parse? body).bind _ = _
        rw [isTerm]
        change (items? term).bind _ = _
        rw [areTerms]
        exact icons
      · cases isRead

/-! ### Canonical outlines -/

theorem pairwise_rank_all : Variant.all.Pairwise fun one other => one.rank < other.rank := by
  decide

/-- Entries are in order exactly if their variants are some of all, in canonical order. -/
theorem inOrder_iff_sublist {entries : List Entry} :
    InOrder entries ↔
      (entries.map fun entry => entry.variant.name).Sublist (Variant.all.map Variant.name) := by
  have inRanks : InOrder entries ↔
      (entries.map Entry.variant).Pairwise fun one other => one.rank < other.rank := by
    rw [List.pairwise_map, InOrder]
  have names : (entries.map fun entry => entry.variant.name) =
      (entries.map Entry.variant).map Variant.name := by
    rw [List.map_map]
    rfl
  rw [inRanks, names]
  constructor
  · intro ordered
    have distinct : (entries.map Entry.variant).Nodup := ordered.imp ne_of_rank_lt
    have among : entries.map Entry.variant ⊆ Variant.all := fun variant _ => variant.mem_all
    exact (List.sublist_of_subperm_of_pairwise (List.subperm_of_subset distinct among) ordered
      pairwise_rank_all).map Variant.name
  · intro listed
    obtain ⟨variants, areListed, sameNames⟩ := List.sublist_map_iff.mp listed
    have same := List.map_injective_iff.mpr (fun _ _ => Variant.eq_of_name_eq) sameNames
    rw [same]
    exact pairwise_rank_all.sublist areListed

theorem isCanonical_iff_outline {collection : Collection} :
    collection.IsCanonical ↔ IsCanonicalOutline (collection.map outline) := by
  have sameNames : (collection.map outline).map IconOutline.name = collection.map Icon.name :=
    List.map_map
  constructor
  · rintro ⟨distinct, inOrder⟩
    refine ⟨sameNames ▸ distinct, fun icon member => ?_⟩
    obtain ⟨listed, isListed, rfl⟩ := List.mem_map.mp member
    exact inOrder_iff_sublist.mp (inOrder listed isListed)
  · rintro ⟨distinct, inOrder⟩
    refine ⟨sameNames ▸ distinct, fun icon member => ?_⟩
    exact inOrder_iff_sublist.mpr (inOrder (outline icon) (List.mem_map_of_mem member))

/-- A module that is accepted holds a canonical collection exactly if its text lists one: the
names of its icons differ and the variants of each come in canonical order. -/
theorem canonical_iff_outline {collection : Collection}
    (isRead : parse source = .ok collection) :
    ∃ icons, outline? source = some icons ∧ collection.map outline = icons ∧
      (collection.IsCanonical ↔ IsCanonicalOutline icons) :=
  ⟨_, outline?_of_parse isRead, rfl, isCanonical_iff_outline⟩

/-- A module with two variants of an icon, the later one in front. -/
def unorderedModule : String :=
  "export default [\x7bname: \"star\", variants: [" ++
    "\x7bvariant: \"regular\", svg: \x7btype: \"element\", name: \"svg\"\x7d\x7d, " ++
    "\x7bvariant: \"light\", svg: \x7btype: \"element\", name: \"svg\"\x7d\x7d]\x7d] as const;"

theorem exists_parse_unorderedModule :
    ∃ collection, parse unorderedModule = .ok collection ∧
      collection.map outline = [⟨"star", ["regular", "light"]⟩] := by
  have shows : (parse unorderedModule).toOption.map (List.map outline) =
      some [⟨"star", ["regular", "light"]⟩] := by decide +kernel
  cases isRead : parse unorderedModule with
  | error cause =>
    rw [isRead] at shows
    cases shows
  | ok collection =>
    rw [isRead] at shows
    exact ⟨collection, rfl, Option.some.inj shows⟩

theorem canonical_iff_outline_unorderedModule :
    ∃ collection, parse unorderedModule = .ok collection ∧
      ∃ icons, outline? unorderedModule = some icons ∧ collection.map outline = icons ∧
        (collection.IsCanonical ↔ IsCanonicalOutline icons) := by
  obtain ⟨collection, isRead, -⟩ := exists_parse_unorderedModule
  exact ⟨collection, isRead, canonical_iff_outline isRead⟩

/-- Not every module that is accepted holds a canonical collection. -/
theorem parse_unorderedModule :
    ¬∀ source collection, parse source = .ok collection → collection.IsCanonical := by
  intro canonical
  obtain ⟨collection, isRead, listed⟩ := exists_parse_unorderedModule
  have isCanonical := isCanonical_iff_outline.mp (canonical _ collection isRead)
  rw [listed] at isCanonical
  exact absurd (isCanonical.inOrder _ List.mem_cons_self) (by decide)

end IconForge.Module
