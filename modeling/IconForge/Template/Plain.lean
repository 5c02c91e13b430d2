import IconForge.Keyed
import IconForge.Template.Engine
import IconForge.Template.Reader
import IconForge.Template.Render

/-!
Contract: an engine for plain templates.

Owns: what it takes up, and how it fills a template by its name.

Does not own: the tags of richer templates, which it refuses. The templates that
come with the program are plain.
-/

namespace IconForge.Template.Plain

open IconForge.Files

/-- Takes up texts that are plain templates. -/
def accept (texts : Texts) : Except Error Unit :=
  if texts.all fun template => (parse? template.2).isSome then .ok () else .error unworded

def load (_pattern : Path) (files : List (String × ByteArray)) : Except Error Texts :=
  match files.mapM textOfFile? with
  | none => .error unworded
  | some texts => do
    accept texts
    .ok texts

/-- What a text yields as a plain template. -/
def fill (text : String) (scope : Scope) : Except Error String :=
  match parse? text with
  | some parts => renderParts scope parts
  | none => .error unworded

def render (texts : Texts) (name : String) (scope : Scope) : Except Error String :=
  match Keyed.get? name texts with
  | some text => fill text scope
  | none => .error unworded

/-- The engine that is at hand where no other one is given. -/
instance engine : Engine where
  load := load
  add _ := accept
  render := render

end IconForge.Template.Plain
