/-!
Contract: the templates that are used where no other ones are given.

Owns: their names and their texts.
-/

namespace IconForge.Template.Embedded

def text (lines : List String) : String :=
  String.join (lines.map fun line => line ++ "\n")

def component : String :=
  text
    ["import * as React from \"react\"",
     "import variants from \"../variants/\x7b\x7b name \x7d\x7d\"",
     "import type \x7b Icon \x7d from \"../lib/types\"",
     "import IconBase from \"../lib/icon-base\"",
     "",
     "/**",
     "\x7b% for p in previews %\x7d * @\x7b\x7b p.variant \x7d\x7d " ++
       "\x7b\x7b p.preview | safe \x7d\x7d",
     "\x7b% endfor %\x7d */",
     "",
     "const \x7b\x7b component \x7d\x7d: Icon = React.forwardRef((props, ref) => (",
     "  <IconBase ref=\x7bref\x7d \x7b...props\x7d variants=\x7bvariants\x7d />",
     "))",
     "",
     "\x7b\x7b component \x7d\x7d.displayName = \"\x7b\x7b component \x7d\x7d\"",
     "",
     "export default \x7b\x7b component \x7d\x7d"]

def index : String :=
  text
    ["\x7b% for icon in icons %\x7dexport \x7b default as \x7b\x7b icon.component \x7d\x7d \x7d " ++
       "from \"./icons/\x7b\x7b icon.name \x7d\x7d\";",
     "\x7b% endfor -%\x7d"]

def variants : String :=
  text
    ["import * as React from \"react\"",
     "import * as SVG from \"react-native-svg\"",
     "import type \x7b IconVariant \x7d from \"../lib/types\"",
     "",
     "const \x7b\x7b camel \x7d\x7dVariants = new Map<IconVariant, React.ReactElement>([",
     "\x7b% for entry in entries %\x7d[\"\x7b\x7b entry.variant \x7d\x7d\", " ++
       "\x7b\x7b entry.code | safe \x7d\x7d]" ++
       "\x7b% if not loop.last %\x7d,\x7b% endif %\x7d",
     "\x7b% endfor %\x7d])",
     "",
     "export default \x7b\x7b camel \x7d\x7dVariants"]

/-- The file of the component that all icons share. -/
def iconBase : String :=
  text
    ["import \x7b createElement, forwardRef \x7d from \"react\"",
     "import type \x7b IconVariant, ZappiconProps \x7d from \"./types\"",
     "import Svg from \"react-native-svg\"",
     "",
     "interface IconBaseProps extends ZappiconProps \x7b",
     "  variants: Map<IconVariant, React.ReactNode>",
     "\x7d",
     "",
     "const DEFAULT_VARIANT: IconVariant = \"\x7b\x7b default_variant \x7d\x7d\"",
     "",
     "const IconBase = forwardRef<React.ComponentRef<typeof Svg>, IconBaseProps>(",
     "  (props, ref) => \x7b",
     "    const \x7b color, size, variant, variants, children, ...rest \x7d = props",
     "",
     "    const selectedVariant =",
     "      children ||",
     "      variants.get(variant ?? DEFAULT_VARIANT) ||",
     "      variants.get(DEFAULT_VARIANT)",
     "",
     "    return createElement(",
     "      Svg,",
     "      \x7b",
     "        ref,",
     "        width: size ?? \x7b\x7b default_size \x7d\x7d,",
     "        height: size ?? \x7b\x7b default_size \x7d\x7d,",
     "        fill: color ?? \"\x7b\x7b default_color \x7d\x7d\",",
     "        viewBox: \"\x7b\x7b view_box \x7d\x7d\",",
     "        ...rest,",
     "      \x7d,",
     "      selectedVariant",
     "    )",
     "  \x7d",
     ")",
     "",
     "IconBase.displayName = \"IconBase\"",
     "",
     "export default IconBase"]

def types : String :=
  text
    ["import Svg, \x7b SvgProps \x7d from \"react-native-svg\"",
     "",
     "export type IconVariant =",
     "\x7b% for v in variants %\x7d  | \"\x7b\x7b v \x7d\x7d\"",
     "\x7b% endfor %\x7d",
     "export interface ZappiconProps extends SvgProps \x7b",
     "  variant?: IconVariant",
     "  size?: string | number",
     "  color?: string",
     "\x7d",
     "",
     "export type Icon = React.ForwardRefExoticComponent<",
     "  ZappiconProps & React.RefAttributes<React.ComponentRef<typeof Svg>>",
     ">"]

def componentName : String := "component.tsx.tera"

/-- The name of the template that exports all components. -/
def indexName : String := "index.ts.tera"

def variantsName : String := "variants.ts.tera"

/-- The name of the template of the shared component. -/
def iconBaseName : String := "lib/icon-base.tsx.tera"

def typesName : String := "lib/types.ts.tera"

def all : List (String × String) :=
  [(componentName, component), (indexName, index), (variantsName, variants),
   (iconBaseName, iconBase), (typesName, types)]

end IconForge.Template.Embedded
