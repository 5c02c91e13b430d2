import IconForge.Proofs.Outcome
import IconForge.Template.Library
import IconForge.Template.Plain

/-!
Contract: what is known of an engine that fills templates.

Owns:
- texts that refer to no other template, and paths that stand for themselves in patterns;
- the laws of an engine, each a documented fact about its language;
- that the engine for plain templates obeys them.

Main statement: `lawful_plain`.

Does not own: which templates there are.
-/

namespace IconForge.Template

open IconForge.Files

/-! ### Texts that stand alone -/

/-- The words of the tags that refer to another template. -/
def referringWords : List String := ["extends", "include", "import"]

/-- Whether a tag that refers to another template may start where a text does. In front of
its word there may be a dash and blanks. -/
def mayRefer (text : List Char) : Bool :=
  let inside := (text.drop 2).dropWhile fun c => c == '-' || isGap c
  ['\x7b', '%'].isPrefixOf text &&
    referringWords.any fun word => word.toList.isPrefixOf inside

/-- Whether no tag that refers to another template starts anywhere in a text. -/
def standsAlone : List Char → Bool
  | [] => true
  | c :: rest => !mayRefer (c :: rest) && standsAlone rest

/-- Whether a text of a template refers to no other template. -/
def StandsAlone (text : String) : Prop :=
  standsAlone text.toList = true

/-! ### Paths in patterns -/

/-- Whether a pattern of paths gives a character a meaning. -/
def isPatternChar (c : Char) : Bool :=
  ['*', '?', '[', ']', '\x7b', '\x7d', '\\'].contains c

/-- Whether a path stands for itself in a pattern. -/
def IsLiteral (path : Path) : Prop :=
  ∃ text, path = .ofText text ∧ text.toList.any isPatternChar = false

/-! ### Laws -/

/-- What an engine is documented to do. -/
structure Engine.Lawful [Engine] : Prop where
  /-- What is taken up of a directory are the texts that its files store, all of them; which
  one comes first is left open. -/
  taken : ∀ (directory : Path) (files : List (String × ByteArray)) (texts : Texts),
    IsLiteral directory → Engine.load (templatePattern directory) files = .ok texts →
      (files.map textOfFile?).Perm (texts.map some)
  /-- A directory is taken up if its files store texts that refer to no other template and
  can each be taken up. -/
  load : ∀ (directory : Path) (files : List (String × ByteArray)), IsLiteral directory →
    (∀ file ∈ files, ∃ template, textOfFile? file = some template ∧ StandsAlone template.2 ∧
      Engine.add [] [template] = .ok ()) →
    ∃ texts, Engine.load (templatePattern directory) files = .ok texts
  /-- Among templates that refer to no other one, each is taken up or not on its own. -/
  add : ∀ texts more : Texts, (∀ template ∈ texts ++ more, StandsAlone template.2) →
    (Engine.add texts more = .ok () ↔ ∀ template ∈ more, Engine.add [] [template] = .ok ())
  /-- A template that refers to no other one yields what it would yield on its own. -/
  render : ∀ (texts : Texts) (name text : String) (scope : Scope),
    Keyed.get? name texts = some text → StandsAlone text →
      Engine.render texts name scope = Engine.render [(name, text)] name scope

/-! ### The engine for plain templates -/

namespace Plain

variable {pattern : Path} {texts : Texts} {files : List (String × ByteArray)}

theorem accept_eq_ok_iff :
    accept texts = .ok () ↔ ∀ template ∈ texts, (parse? template.2).isSome = true := by
  rw [← List.all_eq_true, accept]
  split
  · next isPlain => exact iff_of_true rfl isPlain
  · next notPlain => exact iff_of_false nofun notPlain

theorem load_eq_ok_iff :
    load pattern files = .ok texts ↔
      files.map textOfFile? = texts.map some ∧ accept texts = .ok () := by
  rw [← mapM_eq_some_iff]
  unfold load
  cases files.mapM textOfFile? with
  | none => simp
  | some found =>
    simp only [bind_eq_ok_iff, Except.ok.injEq, Option.some.injEq]
    constructor
    · rintro ⟨_, isAccepted, rfl⟩
      exact ⟨rfl, isAccepted⟩
    · rintro ⟨rfl, isAccepted⟩
      exact ⟨(), isAccepted, rfl⟩

theorem exists_load
    (each : ∀ file ∈ files, ∃ template, textOfFile? file = some template ∧
      accept [template] = .ok ()) :
    ∃ texts, load pattern files = .ok texts := by
  obtain ⟨texts, areTexts, areAccepted⟩ := exists_map_of_forall each
  refine ⟨texts, load_eq_ok_iff.mpr ⟨areTexts, accept_eq_ok_iff.mpr fun template member => ?_⟩⟩
  exact accept_eq_ok_iff.mp (areAccepted template member) template (List.mem_singleton_self _)

theorem render_of_get? {name text : String} {scope : Scope}
    (found : Keyed.get? name texts = some text) : render texts name scope = fill text scope := by
  unfold render
  rw [found]

end Plain

theorem lawful_plain : Engine.Lawful where
  taken _ _ _ _ isLoaded := (Plain.load_eq_ok_iff.mp isLoaded).1 ▸ List.Perm.refl _
  load _ _ _ each := by
    refine Plain.exists_load fun file member => ?_
    obtain ⟨template, isText, -, isAccepted⟩ := each file member
    exact ⟨template, isText, isAccepted⟩
  add texts more _ := by
    change Plain.accept more = .ok () ↔ ∀ template ∈ more, Plain.accept [template] = .ok ()
    simp only [Plain.accept_eq_ok_iff, List.forall_mem_singleton]
  render texts name text scope found _ := by
    have foundAlone : Keyed.get? name [(name, text)] = some text := if_pos rfl
    exact (Plain.render_of_get? found).trans (Plain.render_of_get? foundAlone).symm

end IconForge.Template
