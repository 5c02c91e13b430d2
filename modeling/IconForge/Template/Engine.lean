import IconForge.Files.Path
import IconForge.Template.Value

/-!
Contract: the engine that fills templates, as what a run asks of it.

Owns:
- what an engine takes up, and what it makes of that;
- the templates at hand in a run.

Does not own: the language of templates, which is the engine's.
-/

namespace IconForge.Template

open IconForge.Files

/-- The texts of templates by name, of which the first with a name counts. -/
abbrev Texts := List (String × String)

/-- The template in a file, given with its name, if the file stores a text. -/
def textOfFile? (file : String × ByteArray) : Option (String × String) :=
  (String.fromUTF8? file.2).map fun text => (file.1, text)

/-- What the engine of one run answers. It is kept as an inferred model, so that
a run need not name it. What it answers may depend on more than what it is told,
such as the time: two runs can have two engines. Within a run one answer to one
question is enough, since no template is filled twice in the same scope as long
as the icons of a collection differ in name. -/
class Engine where
  /-- Takes up the templates that a pattern of paths finds, as their texts, told
  the files below the directory of the pattern and the names of their templates. -/
  load : Path → List (String × ByteArray) → Except Error Texts
  /-- Takes up further texts beside those that have been taken up. -/
  add : Texts → Texts → Except Error Unit
  /-- What the template of a name yields in a scope, with nothing escaped. -/
  render : Texts → String → Scope → Except Error String

/-- The templates that have been taken up in a run, and what they yield. -/
structure Library where
  texts : Texts
  render : String → Scope → Except Error String

namespace Library

variable [Engine]

def ofTexts (texts : Texts) : Library where
  texts := texts
  render := Engine.render texts

end Library

end IconForge.Template
