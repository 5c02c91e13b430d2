import IconForge.Naming

/-!
Contract: the property name of an attribute key.

Owns: the keys whose property name is fixed by a list, and the rule for all
others.
-/

namespace IconForge.Script

/-- Attribute keys whose property name does not follow from their words. -/
def fixedPropNames : List (String × String) :=
  [("class", "className"), ("for", "htmlFor"), ("tabindex", "tabIndex"),
   ("readonly", "readOnly"), ("maxlength", "maxLength"), ("cellpadding", "cellPadding"),
   ("cellspacing", "cellSpacing"), ("rowspan", "rowSpan"), ("colspan", "colSpan"),
   ("usemap", "useMap"), ("frameborder", "frameBorder"),
   ("contenteditable", "contentEditable")]

/-- The property name of an attribute key: the fixed one if there is one, or
else the identifier form of the key. -/
def propName (key : String) : String :=
  (fixedPropNames.lookup key).getD (Naming.attributeCamel key)

end IconForge.Script
