import IconForge.Proofs.Output.Loading
import IconForge.Proofs.Output.Rendering

/-!
Contract: what files are made of that a directory of templates is used for.

Owns:
- the texts that templates yield, each from its own template;
- the text of a template: that of a file of the directory that has its name, and else the
  one that comes with the program;
- that a text yields the same whatever else is at hand, if it refers to no other template;
- that a directory without templates makes no difference.

Main statements: `supplies_of_library`, `library_of_embedded`, `library_of_empty`.

Does not own: what the texts of templates yield, which is the engine's.
-/

namespace IconForge.Output

open IconForge.Files
open IconForge.Template

/-- A text that a template yields. -/
inductive Product where
  | component (icon : Icon)
  | variants (icon : Icon)
  | index (collection : Collection)
  | types
  | iconBase

namespace Product

/-- The name of a product's template, and the text that comes with the program for it. -/
def template : Product → String × String
  | component _ => (Embedded.componentName, Embedded.component)
  | variants _ => (Embedded.variantsName, Embedded.variants)
  | index _ => (Embedded.indexName, Embedded.index)
  | types => (Embedded.typesName, Embedded.types)
  | iconBase => (Embedded.iconBaseName, Embedded.iconBase)

/-- What the template is told. -/
def scope : Product → Scope
  | component icon => componentScope icon
  | variants icon => variantsScope icon
  | index collection => indexScope collection
  | types => sharedScope
  | iconBase => sharedScope

/-- What a library makes of a product. -/
def text (library : Library) : Product → Except Fault String
  | component icon => Output.component library icon
  | variants icon => Output.variants library icon
  | index collection => Output.index library collection
  | types => Output.types library
  | iconBase => Output.iconBase library

theorem template_mem (product : Product) : product.template ∈ Embedded.all := by
  cases product <;> simp [template, Embedded.all]

theorem text_eq (library : Library) (product : Product) :
    product.text library = renderTemplate library product.template.1 product.scope := by
  cases product <;> rfl

end Product

/-- Whether a file with a content is where a name leads from a directory. -/
def StandsAt (tree : Tree) (place : Place) (name : String) (content : ByteArray) : Prop :=
  tree.get? ((Path.ofText name).parts.reverse ++ place) = some (.file content)

/-- Whether two libraries make the same of every product. -/
def SameProducts (library other : Library) : Prop :=
  ∀ product : Product, product.text library = product.text other

/-! ### The templates that come with the program -/

/-- No template that comes with the program refers to another one. -/
theorem standsAlone_embedded : ∀ template ∈ Embedded.all, StandsAlone template.2 := by
  have alone : (standsAlone Embedded.component.toList && standsAlone Embedded.index.toList &&
      standsAlone Embedded.variants.toList && standsAlone Embedded.iconBase.toList &&
      standsAlone Embedded.types.toList) = true := by
    unfold Embedded.component Embedded.index Embedded.variants Embedded.iconBase Embedded.types
    simp only [toList_text, List.flatMap_cons, List.flatMap_nil, String.toList_append]
    repeat rw [String.toList_ofList]
    decide +kernel
  simp only [Bool.and_eq_true] at alone
  obtain ⟨⟨⟨⟨component, index⟩, variants⟩, iconBase⟩, types⟩ := alone
  simp only [Embedded.all, List.forall_mem_cons]
  exact ⟨component, index, variants, iconBase, types, List.forall_mem_nil _⟩

/-- The names of the templates that come with the program are those of the files to which
they lead. -/
theorem names_embedded : ∀ template ∈ Embedded.all,
    (∀ c ∈ template.1.toList, Text.IsPlainChar c) ∧
      isTemplateFile (Path.ofText template.1).parts = true ∧
      nameOfFile (Path.ofText template.1).parts = template.1 := by
  have plain : ∀ template ∈ Embedded.all,
      template.1.toList.all (fun c => 0 < c.toNat ∧ c.toNat < 0x80) = true := by
    decide +kernel
  have leads : ∀ template ∈ Embedded.all,
      isTemplateFile (Path.ofText template.1).parts = true ∧
        nameOfFile (Path.ofText template.1).parts = template.1 := by
    decide +kernel
  refine fun template member => ⟨fun c inName => ?_, leads template member⟩
  have isPlain := List.all_eq_true.mp (plain template member) c inName
  rwa [decide_eq_true_iff] at isPlain

/-- Where no name below a directory has a backslash, the file of a template is where the
name of the template leads. -/
theorem supplies_of_noBackslash {tree : Tree} {place : Place} {template : String × String}
    {text : String} (isTemplate : template ∈ Embedded.all) (noBackslash : NoBackslash tree place)
    (supplies : Supplies (IsTemplate tree place template.1) template.2 text) :
    Supplies (StandsAt tree place template.1) template.2 text := by
  have same : StandsAt tree place template.1 = IsTemplate tree place template.1 := by
    funext content
    obtain ⟨plain, isFile, isNamed⟩ := names_embedded template isTemplate
    exact propext (isTemplate_iff_of_noBackslash plain isFile isNamed noBackslash).symm
  rwa [same]

/-! ### Templates and their texts -/

section

variable [Engine]

/-- What the template of a name yields among texts. -/
def renderAmong (texts : Texts) (name : String) (scope : Scope) : Except Fault String :=
  during (.renderTemplate name) .template (Engine.render texts name scope)

/-- Whether the templates of a directory can be loaded, and make the same of every product as
the templates that are used where no directory is given, if those can be loaded. -/
def MakesNoDifference (path : Path) (world : World) : Prop :=
  ∀ other after, (Output.library none).perform world = (.ok other, after) →
    ∃ library finished, (Output.library (some path)).perform world = (.ok library, finished) ∧
      SameProducts library other

variable {library : Library} {own texts : Texts} {text : String} {template : String × String}
  {tree : Tree} {path : Path} {place : Place} {world finished : World}

theorem Product.text_ofTexts (product : Product) :
    product.text (.ofTexts texts) = renderAmong texts product.template.1 product.scope := by
  rw [product.text_eq]
  rfl

/-- A template that refers to no other one yields what it yields on its own. -/
theorem renderAmong_eq_alone (lawful : Engine.Lawful) {name : String} {scope : Scope}
    (found : Keyed.get? name texts = some text) (alone : StandsAlone text) :
    renderAmong texts name scope = renderAmong [(name, text)] name scope := by
  unfold renderAmong
  rw [lawful.render texts name text scope found alone]

/-! ### Loading a directory -/

/-- Files that store texts of templates that come with the program are taken up, as such
templates, if each of these can be. -/
theorem exists_load_of_embedded (lawful : Engine.Lawful) (isLiteral : IsLiteral path)
    (each : ∀ template ∈ Embedded.all, Engine.add [] [template] = .ok ())
    {files : List (String × ByteArray)}
    (shown : ∀ file ∈ files, ∃ template ∈ Embedded.all, textOfFile? file = some template) :
    ∃ own, Engine.load (templatePattern path) files = .ok own ∧
      ∀ template ∈ own, template ∈ Embedded.all := by
  have canBeLoaded : ∀ file ∈ files, ∃ template, textOfFile? file = some template ∧
      StandsAlone template.2 ∧ Engine.add [] [template] = .ok () := by
    intro file isFile
    obtain ⟨template, isTemplate, isText⟩ := shown file isFile
    exact ⟨template, isText, standsAlone_embedded template isTemplate, each template isTemplate⟩
  obtain ⟨own, isLoaded⟩ := lawful.load path files isLiteral canBeLoaded
  refine ⟨own, isLoaded, fun template isOwn => ?_⟩
  obtain ⟨file, isFile, isText⟩ :=
    exists_file_of_perm (lawful.taken path files own isLiteral isLoaded) isOwn
  obtain ⟨found, isTemplate, isFound⟩ := shown file isFile
  cases isText.symm.trans isFound
  exact isTemplate

/-- What is missing is taken up beside templates that come with the program, if each of these
can be. -/
theorem add_missing (lawful : Engine.Lawful)
    (each : ∀ template ∈ Embedded.all, Engine.add [] [template] = .ok ())
    (ownEmbedded : ∀ template ∈ own, template ∈ Embedded.all) :
    Engine.add own (missing own) = .ok () := by
  have moreEmbedded : ∀ template ∈ missing own, template ∈ Embedded.all :=
    fun template member => (List.mem_filter.mp member).1
  refine (lawful.add own (missing own) fun template member => ?_).mpr fun template member =>
    each template (moreEmbedded template member)
  exact standsAlone_embedded template
    ((List.mem_append.mp member).elim (ownEmbedded template) (moreEmbedded template))

/-- Libraries in which all templates that come with the program have their texts make the
same of every product. -/
theorem sameProducts_embedded (lawful : Engine.Lawful)
    (found : ∀ template ∈ Embedded.all, Keyed.get? template.1 texts = some template.2) :
    SameProducts (.ofTexts texts) .embedded := by
  intro product
  have member := product.template_mem
  have alone := standsAlone_embedded _ member
  have foundEmbedded : Keyed.get? product.template.1 Embedded.all = some product.template.2 :=
    get?_embedded member
  rw [Library.embedded, product.text_ofTexts, product.text_ofTexts,
    renderAmong_eq_alone lawful (found _ member) alone,
    renderAmong_eq_alone lawful foundEmbedded alone]

/-- A directory in which there are no templates but those that come with the program, with
the texts that they have there, makes no difference. -/
theorem library_of_embedded (lawful : Engine.Lawful) (isLiteral : IsLiteral path)
    (isDirectory : world.tree.directoryAt path = .ok place)
    (isEmbedded : ∀ name content, IsTemplate world.tree place name content →
      ∃ text, (name, text) ∈ Embedded.all ∧ content = text.toUTF8) :
    MakesNoDifference path world := by
  intro other after performed
  rw [perform_library_none] at performed
  obtain ⟨accepted, rfl⟩ := loaded_none_eq_ok_iff.mp (Prod.ext_iff.mp performed).1
  have each := (lawful.add [] Embedded.all standsAlone_embedded).mp accepted
  have shown : ∀ file ∈ filesBelow world.tree place, ∃ template ∈ Embedded.all,
      textOfFile? file = some template := by
    rintro ⟨name, content⟩ isFile
    obtain ⟨text, isTemplate, rfl⟩ := isEmbedded name content (mem_filesBelow_iff.mp isFile)
    exact ⟨(name, text), isTemplate,
      textOfFile?_eq_some_iff.mpr ⟨rfl, Text.fromUTF8?_toUTF8 text⟩⟩
  obtain ⟨own, isLoaded, ownEmbedded⟩ := exists_load_of_embedded lawful isLiteral each shown
  obtain ⟨finished, performed⟩ := exists_perform_library (loaded_some_eq_ok_iff.mpr
    ⟨place, own, isDirectory, isLoaded, add_missing lawful each ownEmbedded, rfl⟩)
  exact ⟨_, finished, performed,
    sameProducts_embedded lawful fun _ isTemplate => get?_append_missing ownEmbedded isTemplate⟩

/-- An empty directory makes no difference. -/
theorem library_of_empty (lawful : Engine.Lawful) (isLiteral : IsLiteral path)
    (isDirectory : world.tree.directoryAt path = .ok place)
    (isEmpty : ∀ name, world.tree.get? (name :: place) = none) :
    MakesNoDifference path world := by
  refine library_of_embedded lawful isLiteral isDirectory ?_
  rintro name content ⟨way, stands, isTemplate, -⟩
  cases way with
  | nil => exact absurd isTemplate (by decide)
  | cons part rest =>
    have nothing := Tree.get?_append_eq_none rest.reverse (isEmpty part)
    rw [List.reverse_cons, List.append_assoc, List.singleton_append, nothing] at stands
    cases stands

/-- Every product of a library is what its template yields among the texts at hand. The text
of this template is that of a file of the directory, and else the one that comes with the
program; if it refers to no other template, the product is made from it alone. -/
theorem supplies_of_library (lawful : Engine.Lawful) (isLiteral : IsLiteral path)
    (performed : (Output.library (some path)).perform world = (.ok library, finished)) :
    ∃ place, world.tree.directoryAt path = .ok place ∧
      ∀ template ∈ Embedded.all, ∃ text,
        Supplies (IsTemplate world.tree place template.1) template.2 text ∧
        (NoBackslash world.tree place →
          Supplies (StandsAt world.tree place template.1) template.2 text) ∧
        Keyed.get? template.1 library.texts = some text ∧
        ∀ product : Product, product.template = template →
          product.text library = renderAmong library.texts template.1 product.scope ∧
          (StandsAlone text →
            product.text library = renderAmong [(template.1, text)] template.1 product.scope) := by
  have isLoaded := (gives_library (some path) world.tree).outcome_eq performed
  obtain ⟨place, own, isDirectory, isOwn, -, rfl⟩ := loaded_some_eq_ok_iff.mp isLoaded.symm
  refine ⟨place, isDirectory, fun template isTemplate => ?_⟩
  have areTexts := lawful.taken path _ own isLiteral isOwn
  obtain ⟨text, supplies, found⟩ := exists_supplied areTexts isTemplate
  refine ⟨text, supplies,
    fun noBackslash => supplies_of_noBackslash isTemplate noBackslash supplies, found, ?_⟩
  rintro product rfl
  rw [product.text_ofTexts]
  exact ⟨rfl, renderAmong_eq_alone lawful found⟩

end

end IconForge.Output
