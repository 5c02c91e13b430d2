import IconForge.Proofs.Output.Templates
import IconForge.Proofs.Output.Texts
import IconForge.Proofs.Scaffold

/-!
Contract: the directory of templates that a project starts with.

Owns:
- which files there are behind the steps that write the first files of a project;
- which templates the new directory has;
- when a directory of templates makes no difference.

Main statements: `templates_of_write`, `library_of_directory`.

Does not own: how a directory of templates is loaded.
-/

namespace IconForge.Scaffold

open IconForge.Files
open IconForge.Output
open IconForge.Template

variable {directory out path : Path} {tree : Tree} {world finished : World} {place : Place}
  {plan : List Planned} {task : Task Unit} {force : Bool} {way : List Name} {content : ByteArray}

/-! ### Files behind the steps -/

theorem emitted_of_writeUnlessKept (emits : Emits out task plan)
    (performed : (writeUnlessKept path force task).perform world = (.ok (), finished)) :
    ∃ written, written.Sublist plan ∧ Emitted out written world.tree finished.tree := by
  rw [perform_writeUnlessKept] at performed
  split at performed
  · rw [Task.tree_of_tell performed]
    exact ⟨[], List.nil_sublist _, .nil _⟩
  · obtain ⟨_, between, written, told⟩ := Task.perform_bind_eq_ok performed
    rw [Task.tree_of_tell told]
    exact ⟨plan, List.Sublist.refl _, emits.emitted written⟩

theorem emitted_of_write
    (performed : (write directory force).perform world = (.ok (), finished)) :
    ∃ made written, Tree.Grows world.tree made ∧ written.Sublist planned ∧
      Emitted directory written made finished.tree := by
  obtain ⟨_, made, isMade, performed⟩ := Task.perform_bind_eq_ok performed
  obtain ⟨_, sampled, isSampled, performed⟩ := Task.perform_bind_eq_ok performed
  obtain ⟨_, templated, isTemplated, told⟩ := Task.perform_bind_eq_ok performed
  have grows := makeDirectory_grows directory world
  rw [isMade] at grows
  obtain ⟨samples, sampleIsPart, sampleEmitted⟩ :=
    emitted_of_writeUnlessKept (emits_writeSample directory) isSampled
  obtain ⟨templates, templatesArePart, templatesEmitted⟩ :=
    emitted_of_writeUnlessKept (emits_writeTemplates directory) isTemplated
  rw [Task.tree_of_tell told]
  exact ⟨made.tree, samples ++ templates, grows, sampleIsPart.append templatesArePart,
    sampleEmitted.append templatesEmitted⟩

/-- A file that is found behind the steps has been there before, or it is one of those that
they write, with its text. -/
theorem file_of_write
    (performed : (write directory force).perform world = (.ok (), finished))
    (stands : finished.tree.get? place = some (.file content)) :
    world.tree.get? place = some (.file content) ∨
      ∃ file ∈ planned, finished.tree.locate (file.path directory) = .ok place ∧
        ∃ text, file.text = .ok text ∧ content = text.toUTF8 := by
  obtain ⟨made, written, grows, arePart, emitted⟩ := emitted_of_write performed
  by_cases isWritten : ∃ file ∈ written, finished.tree.locate (file.path directory) = .ok place
  · obtain ⟨file, member, located⟩ := isWritten
    have apart := (apart_planned finished.tree directory).sublist arePart
    obtain ⟨text, came, isRead⟩ := emitted.holds apart file member
    obtain ⟨there, found⟩ := Tree.exists_lookUp_of_readBytes isRead
    obtain ⟨alsoLocated, alsoStands, -⟩ := Tree.lookUp_eq_ok_iff.mp found
    rw [located] at alsoLocated
    cases alsoLocated
    rw [stands] at alsoStands
    cases alsoStands
    exact Or.inr ⟨file, arePart.subset member, located, text, came, rfl⟩
  · have others : ∀ file ∈ written, finished.tree.locate (file.path directory) ≠ .ok place :=
      fun file member located => isWritten ⟨file, member, located⟩
    exact Or.inl ((grows place).file_iff.mp ((emitted.isKeptAt others).file_iff.mp stands))

/-! ### The new directory of templates -/

/-- What is planned below the directory of templates is a template. -/
theorem template_of_planned {file : Planned} {front : Place} (isPlanned : file ∈ planned)
    (isBelow : file.place = front ++ [templatesName]) :
    ∃ template ∈ Embedded.all, front = (Path.ofText template.1).parts.reverse ∧
      file.text = .ok template.2 := by
  rcases List.mem_cons.mp isPlanned with rfl | isTemplate
  · have sameName := List.append_inj_right' (show [] ++ [sampleName] = _ from isBelow) rfl
    exact absurd sameName (by decide)
  · obtain ⟨template, member, rfl⟩ := List.mem_map.mp isTemplate
    exact ⟨template, member, (List.append_cancel_right isBelow).symm, rfl⟩

/-- Where nothing was, a directory of templates is left that has exactly those that come
with the program. -/
theorem templates_of_write
    (isFree : world.tree.get? (templatesPath directory).destination = none)
    (performed : (write directory force).perform world = (.ok (), finished)) :
    finished.tree.directoryAt (templatesPath directory) =
        .ok (templatesPath directory).destination ∧
      ∀ way content,
        finished.tree.get? (way.reverse ++ (templatesPath directory).destination) =
          some (.file content) →
        ∃ template ∈ Embedded.all, way = (Path.ofText template.1).parts ∧
          content = template.2.toUTF8 := by
  obtain ⟨place, item, found⟩ := Tree.hasAt_iff.mp (hasAt_templates_of_write performed)
  obtain ⟨located, stands, -⟩ := Tree.lookUp_eq_ok_iff.mp found
  have isDestination := Tree.destination_of_locate located
  obtain ⟨top, isPlace, walked, -⟩ := Tree.locate_join leadsDown_templates located
  have ofFile (front : Place) (content : ByteArray)
      (isFile : finished.tree.get? (front ++ place) = some (.file content)) :
      ∃ template ∈ Embedded.all, front = (Path.ofText template.1).parts.reverse ∧
        content = template.2.toUTF8 := by
    have origin := file_of_write performed isFile
    rcases origin with wasThere | ⟨file, isPlanned, isThere, text, came, rfl⟩
    · have nothing := Tree.get?_append_eq_none front (isDestination ▸ isFree)
      rw [nothing] at wasThere
      cases wasThere
    · obtain ⟨alsoTop, isTop, same⟩ :=
        walk_below (leadsDown_planned file isPlanned) (Tree.locate_eq_ok_iff.mp isThere).2
      rw [walked] at isTop
      cases isTop
      rw [isPlace, ← List.singleton_append, ← List.append_assoc] at same
      obtain ⟨template, member, isFront, isText⟩ :=
        template_of_planned isPlanned (List.append_cancel_right same).symm
      rw [came] at isText
      cases isText
      exact ⟨template, member, isFront, rfl⟩
  rw [isDestination]
  constructor
  · cases item with
    | directory =>
      unfold Tree.directoryAt
      rw [found]
      rfl
    | file content =>
      obtain ⟨template, member, isFront, -⟩ := ofFile [] content stands
      obtain ⟨-, isTemplate, -⟩ := names_embedded template member
      rw [List.reverse_eq_nil_iff.mp isFront.symm] at isTemplate
      exact absurd isTemplate (by decide)
  · intro way content isFile
    obtain ⟨template, member, isFront, isContent⟩ := ofFile way.reverse content isFile
    exact ⟨template, member, List.reverse_inj.mp isFront, isContent⟩

/-- The directory of templates that a project starts with makes no difference. -/
theorem makesNoDifference_of_write [Engine] (lawful : Engine.Lawful)
    (isLiteral : IsLiteral (templatesPath directory))
    (isFree : world.tree.get? (templatesPath directory).destination = none)
    (performed : (write directory force).perform world = (.ok (), finished)) :
    MakesNoDifference (templatesPath directory) finished := by
  obtain ⟨isDirectory, areTemplates⟩ := templates_of_write isFree performed
  refine library_of_embedded lawful isLiteral isDirectory ?_
  rintro name content ⟨way, stands, -, rfl⟩
  obtain ⟨template, member, rfl, rfl⟩ := areTemplates way content stands
  obtain ⟨-, -, isName⟩ := names_embedded template member
  exact ⟨template.2, isName.symm ▸ member, rfl⟩

/-- Whatever templates are loaded from a directory, whose path stands for itself in patterns,
every product is what the engine makes of the template of its name among the texts at hand. The
text of this template is that of a file below the directory that has its name, if there is one,
and else the one that comes with the program, for each name apart from the others; where no name
below the directory has a backslash, that file is the one to which the name leads. A text that
refers to no other template is all that its product is made from. An empty directory makes no
difference, and neither does the one that a project starts with, where nothing was. -/
theorem library_of_directory [Engine] (lawful : Engine.Lawful) :
    (∀ (path : Path) (world finished : World) (library : Library), IsLiteral path →
      (Output.library (some path)).perform world = (.ok library, finished) →
        ∃ place, world.tree.directoryAt path = .ok place ∧
          ∀ template ∈ Embedded.all, ∃ text,
            Supplies (IsTemplate world.tree place template.1) template.2 text ∧
            (NoBackslash world.tree place →
              Supplies (StandsAt world.tree place template.1) template.2 text) ∧
            Keyed.get? template.1 library.texts = some text ∧
            ∀ product : Product, product.template = template →
              product.text library = renderAmong library.texts template.1 product.scope ∧
              (StandsAlone text →
                product.text library =
                  renderAmong [(template.1, text)] template.1 product.scope)) ∧
    (∀ (path : Path) (world : World) (place : Place), IsLiteral path →
      world.tree.directoryAt path = .ok place →
      (∀ name, world.tree.get? (name :: place) = none) → MakesNoDifference path world) ∧
    ∀ (directory : Path) (force : Bool) (world finished : World),
      IsLiteral (templatesPath directory) →
      world.tree.get? (templatesPath directory).destination = none →
      (write directory force).perform world = (.ok (), finished) →
      MakesNoDifference (templatesPath directory) finished :=
  ⟨fun _ _ _ _ isLiteral performed => supplies_of_library lawful isLiteral performed,
    fun _ _ _ isLiteral isDirectory isEmpty =>
      library_of_empty lawful isLiteral isDirectory isEmpty,
    fun _ _ _ _ isLiteral isFree performed =>
      makesNoDifference_of_write lawful isLiteral isFree performed⟩

/-! ### A directory with one template -/

/-- A tree in which there is one file in the directory of templates. -/
def singleTemplate (file : String) : Tree :=
  let withDirectory := (Tree.empty.makePath (.ofText "templates")).1
  let path := (Path.ofText "templates").child file
  (withDirectory.writeText path "mine").toOption.getD withDirectory

theorem parse?_mine : parse? "mine" = some [.text "mine"] := by
  unfold parse?
  rw [String.toList_ofList]
  rfl

theorem standsAlone_mine : StandsAlone "mine" := by
  unfold StandsAlone
  rw [String.toList_ofList]
  rfl

/-- What is at hand with one template of its own. -/
def withMine (name : String) : Library :=
  .ofTexts ([(name, "mine")] ++ missing [(name, "mine")])

theorem renderTemplate_mine {texts : Texts} {name : String} {scope : Scope}
    (found : Keyed.get? name texts = some "mine") :
    renderTemplate (.ofTexts texts) name scope = .ok "mine" := by
  have isRendered : (Library.ofTexts texts).render name scope = .ok "mine" := by
    refine (Plain.render_of_get? found).trans ?_
    rw [Plain.fill, parse?_mine]
    rfl
  rw [renderTemplate, isRendered]
  rfl

theorem perform_library_of_single (file name : String)
    (isDirectory : (singleTemplate file).directoryAt (.ofText "templates") = .ok [templatesName])
    (isSingle : filesBelow (singleTemplate file) [templatesName] = [(name, "mine".toUTF8)]) :
    ∃ finished, (Output.library (some (.ofText "templates"))).perform
      (.ofTree (singleTemplate file)) = (.ok (withMine name), finished) := by
  have isPlain : Plain.accept [(name, "mine")] = .ok () :=
    Plain.accept_eq_ok_iff.mpr (List.forall_mem_singleton.mpr (parse?_mine ▸ rfl))
  have isLoaded : Plain.load (templatePattern (.ofText "templates"))
      (filesBelow (singleTemplate file) [templatesName]) = .ok [(name, "mine")] := by
    refine Plain.load_eq_ok_iff.mpr ⟨?_, isPlain⟩
    rw [isSingle, List.map_singleton, List.map_singleton,
      textOfFile?_eq_some_iff.mpr ⟨rfl, Text.fromUTF8?_toUTF8 "mine"⟩]
  exact exists_perform_library (loaded_some_eq_ok_iff.mpr
    ⟨_, _, isDirectory, isLoaded, accept_missing _, rfl⟩)

theorem perform_library_embedded (world : World) :
    (Output.library none).perform world = (.ok .embedded, world) := by
  rw [perform_library_none, loaded_none_eq_ok_iff.mpr ⟨accept_missing [], rfl⟩]

theorem library_of_directory_single :
    (∃ library finished,
      (Output.library (some (.ofText "templates"))).perform
          (.ofTree (singleTemplate "index.ts.tera")) = (.ok library, finished) ∧
        (∀ collection, Output.index library collection = .ok "mine") ∧
        Output.types library = Output.types .embedded) ∧
    (∃ library finished,
      (Output.library (some (.ofText "templates"))).perform
          (.ofTree (Tree.empty.makePath (.ofText "templates")).1) = (.ok library, finished) ∧
        SameProducts library .embedded) ∧
    ∃ written library finished,
      (write (.ofText ".") false).perform (.ofTree .empty) = (.ok (), written) ∧
        (Output.library (some (templatesPath (.ofText ".")))).perform written =
          (.ok library, finished) ∧
        SameProducts library .embedded := by
  obtain ⟨ofDirectory, ofEmpty, ofWrite⟩ := library_of_directory lawful_plain
  have isLiteral : IsLiteral (.ofText "templates") := ⟨"templates", rfl, by decide⟩
  refine ⟨?_, ofEmpty _ _ [templatesName] isLiteral (by decide +kernel) ?_ _ _
    (perform_library_embedded _), ?_⟩
  · obtain ⟨finished, performed⟩ :=
      perform_library_of_single "index.ts.tera" Embedded.indexName (by decide +kernel)
        (by decide +kernel)
    refine ⟨_, finished, performed, ?_⟩
    obtain ⟨place, isDirectory, supplied⟩ := ofDirectory _ _ _ _ isLiteral performed
    have isPlace : (singleTemplate "index.ts.tera").directoryAt (.ofText "templates") =
        .ok [templatesName] := by
      decide +kernel
    cases isPlace.symm.trans isDirectory
    have noBackslash : NoBackslash (singleTemplate "index.ts.tera") [templatesName] :=
      noBackslash_of_items (by decide +kernel)
    constructor
    · intro collection
      obtain ⟨text, -, supplies, -, products⟩ :=
        supplied (Embedded.indexName, Embedded.index) (by simp [Embedded.all])
      have isMine : StandsAt (singleTemplate "index.ts.tera") [templatesName]
          Embedded.indexName "mine".toUTF8 := by
        rfl
      rcases supplies noBackslash with ⟨content, stands, isText⟩ | ⟨noFile, -⟩
      · cases isMine.symm.trans stands
        rw [Text.fromUTF8?_toUTF8] at isText
        cases isText
        obtain ⟨-, alone⟩ := products (.index collection) rfl
        exact (alone standsAlone_mine).trans (renderTemplate_mine (if_pos rfl))
      · exact absurd isMine (noFile _)
    · have member : (Embedded.typesName, Embedded.types) ∈ Embedded.all := by
        simp [Embedded.all]
      obtain ⟨text, -, supplies, -, products⟩ := supplied _ member
      have nothing : (singleTemplate "index.ts.tera").get?
          ((Path.ofText Embedded.typesName).parts.reverse ++ [templatesName]) = none := by
        decide +kernel
      rcases supplies noBackslash with ⟨content, stands, -⟩ | ⟨-, rfl⟩
      · cases nothing.symm.trans stands
      · obtain ⟨-, alone⟩ := products .types rfl
        have isAlone := standsAlone_embedded _ member
        exact (alone isAlone).trans
          (renderAmong_eq_alone lawful_plain (get?_embedded member) isAlone).symm
  · intro name
    have onlyDirectory : (Tree.empty.makePath (.ofText "templates")).1.items =
        [([templatesName], .directory)] := by
      rfl
    by_contra present
    obtain ⟨item, stands⟩ := Option.ne_none_iff_exists'.mp present
    have member := Tree.mem_items_of_get? (List.cons_ne_nil _ _) stands
    rw [World.ofTree, onlyDirectory] at member
    cases List.mem_singleton.mp member
  · have succeeds : ((write (.ofText ".") false).perform (.ofTree .empty)).1 = .ok () := by
      decide +kernel
    rcases performed : (write (.ofText ".") false).perform (.ofTree .empty) with
      ⟨outcome, written⟩
    rw [performed] at succeeds
    cases succeeds
    have isLiteralBelow : IsLiteral (templatesPath (.ofText ".")) :=
      ⟨"./templates", by decide, by decide⟩
    obtain ⟨library, finished, isLoaded, same⟩ := ofWrite _ _ _ _ isLiteralBelow
      (by decide +kernel) performed _ _ (perform_library_embedded written)
    exact ⟨written, library, finished, rfl, isLoaded, same⟩

/-- A name that has a backslash in place of the slash of a template's name makes a file that
template, though the name of the template does not lead to it. -/
theorem library_of_backslash :
    ∃ library finished,
      (Output.library (some (.ofText "templates"))).perform
          (.ofTree (singleTemplate "lib\\icon-base.tsx.tera")) = (.ok library, finished) ∧
        (∀ content, ¬StandsAt (singleTemplate "lib\\icon-base.tsx.tera") [templatesName]
          Embedded.iconBaseName content) ∧
        Output.iconBase library = .ok "mine" ∧ Output.iconBase .embedded ≠ .ok "mine" := by
  obtain ⟨finished, performed⟩ :=
    perform_library_of_single "lib\\icon-base.tsx.tera" Embedded.iconBaseName
      (by decide +kernel) (by decide +kernel)
  refine ⟨_, finished, performed, ?_, renderTemplate_mine (if_pos rfl), ?_⟩
  · intro content stands
    have nothing : (singleTemplate "lib\\icon-base.tsx.tera").get?
        ((Path.ofText Embedded.iconBaseName).parts.reverse ++ [templatesName]) = none := by
      decide +kernel
    rw [StandsAt, nothing] at stands
    cases stands
  · rw [iconBase_embedded]
    decide +kernel

end IconForge.Scaffold
