import IconForge.Proofs.Outcome
import IconForge.Template.Render

/-!
Contract: templates that can be filled with whatever has a given shape.

Owns:
- shapes of values and of scopes;
- templates that refer to nothing but what a shape promises;
- that such a template always yields a text.

Main statement: `renderParts_of_fits`.

Does not own: any one template.
-/

namespace IconForge.Template

/-- What is known of a value: nothing, or that it is a list, or that it is a
record with certain fields. -/
inductive Shape where
  | any
  | list (item : Shape)
  | record (fields : List (String × Shape))
deriving Repr

/-- What is known of the values that a template can refer to. -/
abbrev ScopeShape := List (String × Shape)

inductive HasShape : Value → Shape → Prop
  | any (value : Value) : HasShape value .any
  | list {items : List Value} {item : Shape} (each : ∀ value ∈ items, HasShape value item) :
      HasShape (.list items) (.list item)
  | record {values : List (String × Value)} {fields : List (String × Shape)}
      (isField : ∀ name shape, Keyed.get? name fields = some shape →
        (Keyed.get? name values).isSome = true)
      (each : ∀ name shape value, Keyed.get? name fields = some shape →
        Keyed.get? name values = some value → HasShape value shape) :
      HasShape (.record values) (.record fields)

/-- A scope has a value of the right shape under every name. -/
def ScopeHasShape (scope : Scope) (shapes : ScopeShape) : Prop :=
  HasShape (.record scope) (.record shapes)

/-! ### Templates that fit -/

/-- The shape of what is found along a path. -/
def Shape.follow? : Shape → List String → Option Shape
  | shape, [] => some shape
  | .record fields, name :: rest => (Keyed.get? name fields).bind fun shape => shape.follow? rest
  | _, _ :: _ => none

/-- The shape of what a reference yields. Only the filter that changes nothing
can be applied to every value. -/
def Reference.shape? (reference : Reference) (shapes : ScopeShape) : Option Shape :=
  if !reference.path.isEmpty && reference.filters.all (· == "safe") then
    (Shape.record shapes).follow? reference.path
  else none

mutual

def Part.fits (shapes : ScopeShape) : Part → Bool
  | .text _ => true
  | .output reference => (reference.shape? shapes).isSome
  | .loop name items body otherwise =>
    match items.shape? shapes with
    | some (.list item) =>
      partsFit ((name, item) :: ("loop", .any) :: shapes) body && partsFit shapes otherwise
    | _ => false
  | .branch _ body otherwise => partsFit shapes body && partsFit shapes otherwise

/-- Whether parts refer to nothing but what the shape of a scope promises. -/
def partsFit (shapes : ScopeShape) : List Part → Bool
  | [] => true
  | part :: rest => part.fits shapes && partsFit shapes rest

end

variable {value : Value} {shape : Shape} {scope : Scope} {shapes : ScopeShape}

/-! ### Values that are found -/

theorem follow?_of_hasShape {found : Shape} {path : List String} (has : HasShape value shape)
    (follows : shape.follow? path = some found) :
    ∃ result, value.follow? path = some result ∧ HasShape result found := by
  induction path generalizing value shape with
  | nil =>
    cases shape <;>
    · cases follows
      exact ⟨value, rfl, has⟩
  | cons name rest inductionHypothesis =>
    cases has with
    | any => cases follows
    | list each => cases follows
    | record isField each =>
      obtain ⟨inner, isInner, follows⟩ := Option.bind_eq_some_iff.mp follows
      obtain ⟨held, isHeld⟩ := Option.isSome_iff_exists.mp (isField name inner isInner)
      obtain ⟨result, isFound, hasFound⟩ :=
        inductionHypothesis (each name inner held isInner isHeld) follows
      refine ⟨result, ?_, hasFound⟩
      unfold Value.follow?
      rw [List.foldlM_cons, Value.part?, isHeld]
      exact isFound

theorem foldlM_safe {filters : List String} (safe : filters.all (· == "safe") = true) :
    filters.foldlM Value.filtered value = .ok value := by
  induction filters with
  | nil => rfl
  | cons filter rest inductionHypothesis =>
    rw [List.all_cons, Bool.and_eq_true, beq_iff_eq] at safe
    rw [List.foldlM_cons, Value.filtered, if_pos safe.1]
    exact inductionHypothesis safe.2

theorem read_of_shape? {reference : Reference} (has : ScopeHasShape scope shapes)
    (promised : reference.shape? shapes = some shape) :
    ∃ result, reference.read scope = .ok result ∧ HasShape result shape := by
  unfold Reference.shape? at promised
  split at promised
  · next allowed =>
    rw [Bool.and_eq_true, Bool.not_eq_true'] at allowed
    obtain ⟨result, isFound, hasShape⟩ := follow?_of_hasShape has promised
    have found : scope.find? reference.path = some result := by
      cases isPath : reference.path with
      | nil => simp [isPath] at allowed
      | cons name rest =>
        rw [isPath, Value.follow?, List.foldlM_cons, Value.part?] at isFound
        exact isFound
    refine ⟨result, ?_, hasShape⟩
    unfold Reference.read
    rw [found]
    exact foldlM_safe allowed.2
  · cases promised

theorem hasShape_cons {name : String} (has : ScopeHasShape scope shapes)
    (hasValue : HasShape value shape) :
    ScopeHasShape ((name, value) :: scope) ((name, shape) :: shapes) := by
  cases has with
  | record isField each =>
    refine .record (fun wanted found isFound => ?_) (fun wanted found held isFound isHeld => ?_)
    · rw [Keyed.get?] at isFound ⊢
      split at isFound
      · next same => rw [if_pos same]; rfl
      · next different =>
        rw [if_neg different]
        exact isField wanted found isFound
    · rw [Keyed.get?] at isFound isHeld
      split at isFound
      · next same =>
        rw [if_pos same] at isHeld
        cases isFound
        cases isHeld
        exact hasValue
      · next different =>
        rw [if_neg different] at isHeld
        exact each wanted found held isFound isHeld

theorem hasShape_nil : ScopeHasShape [] [] :=
  .record (fun _ _ isFound => nomatch isFound) (fun _ _ _ isFound => nomatch isFound)

/-! ### Templates that are filled -/

theorem passScopes_haveShape {name : String} {item : Shape} {items : List Value} {count : Nat}
    (has : ScopeHasShape scope shapes) (each : ∀ value ∈ items, HasShape value item)
    (index : Nat) :
    ∀ inner ∈ passScopes name scope count index items,
      ScopeHasShape inner ((name, item) :: ("loop", .any) :: shapes) := by
  induction items generalizing index with
  | nil => exact List.forall_mem_nil _
  | cons value rest inductionHypothesis =>
    rw [List.forall_mem_cons] at each
    refine List.forall_mem_cons.mpr ⟨?_, inductionHypothesis each.2 (index + 1)⟩
    exact hasShape_cons (hasShape_cons has (.any _)) each.1

mutual

theorem render_of_fits {scope : Scope} {shapes : ScopeShape} (has : ScopeHasShape scope shapes) :
    ∀ part : Part, part.fits shapes = true → ∃ text, part.render scope = .ok text
  | .text value, _ => ⟨value, by rw [Part.render]⟩
  | .output reference, fits => by
    rw [Part.fits] at fits
    obtain ⟨shape, promised⟩ := Option.isSome_iff_exists.mp fits
    obtain ⟨value, isRead, -⟩ := read_of_shape? has promised
    exact ⟨value.written, by rw [Part.render, isRead]; rfl⟩
  | .loop name items body otherwise, fits => by
    rw [Part.fits] at fits
    split at fits
    · next item promised =>
      rw [Bool.and_eq_true] at fits
      obtain ⟨value, isRead, hasItems⟩ := read_of_shape? has promised
      cases hasItems with
      | @list items _ each =>
        have passes : ∃ texts,
            (passScopes name scope items.length 0 items).mapM (renderParts · body) = .ok texts :=
          exists_mapM_of_forall fun inner isInner =>
            renderParts_of_fits (passScopes_haveShape has each 0 inner isInner) body fits.1
        obtain ⟨texts, areTexts⟩ := passes
        rw [Part.render, isRead]
        cases items with
        | nil => exact renderParts_of_fits has otherwise fits.2
        | cons first rest =>
          refine ⟨String.join texts, ?_⟩
          simp only [bind, Except.bind, Value.items?, areTexts]
    · cases fits
  | .branch condition body otherwise, fits => by
    rw [Part.fits, Bool.and_eq_true] at fits
    rw [Part.render]
    split
    · exact renderParts_of_fits has body fits.1
    · exact renderParts_of_fits has otherwise fits.2

/-- Parts that refer to nothing but what is there always yield a text. -/
theorem renderParts_of_fits {scope : Scope} {shapes : ScopeShape}
    (has : ScopeHasShape scope shapes) :
    ∀ parts : List Part, partsFit shapes parts = true → ∃ text, renderParts scope parts = .ok text
  | [], _ => ⟨"", by rw [renderParts]⟩
  | part :: rest, fits => by
    rw [partsFit, Bool.and_eq_true] at fits
    obtain ⟨first, isFirst⟩ := render_of_fits has part fits.1
    obtain ⟨others, areOthers⟩ := renderParts_of_fits has rest fits.2
    exact ⟨first ++ others, by rw [renderParts, isFirst, areOthers]; rfl⟩

end

end IconForge.Template
