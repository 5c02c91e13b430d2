import IconForge.Task
import IconForge.Template.Embedded

/-!
Contract: the files that a project starts with.

Owns:
- the text of the sample configuration;
- which files are written, and when those that are there are kept.

Does not own: the texts of templates.
-/

namespace IconForge.Scaffold

open IconForge.Files

def sample : String :=
  Template.Embedded.text
    ["# zappgen 配置示例（所有字段均可省略，省略时使用以下默认值）",
     "",
     "# SVG 源目录：每个变体一个子目录（light / regular / filled / duotone / duotone-line）",
     "icons_dir: core/icons",
     "",
     "# 中间模块：convert 写出，generate 读取",
     "module: core/src/index.ts",
     "",
     "# 组件输出目录：icons/、variants/、lib/、index.ts",
     "out_dir: src",
     "",
     "# 模板目录：同名模板覆盖内置模板，缺失的使用内置版本",
     "templates_dir: templates",
     "",
     "# 生成前更新上游图标源",
     "refresh:",
     "  enabled: true",
     "  command: [git, submodule, update, --remote, --init, --force, --recursive]"]

def samplePath (directory : Path) : Path :=
  directory.child "zappgen.yaml"

def templatesPath (directory : Path) : Path :=
  directory.child "templates"

/-- Writes what belongs at a path, unless something is there and is not to be
replaced. -/
def writeUnlessKept (path : Path) (force : Bool) (write : Task Unit) : Task Unit := do
  let tree ← Task.tree
  if tree.hasAt path && !force then Task.tell (.kept path)
  else
    write
    Task.tell (.written path)

def writeSample (path : Path) : Task Unit :=
  Task.change (.writeSample path) fun tree => tree.writeText path sample

def writeTemplate (directory : Path) (template : String × String) : Task Unit := do
  let path := directory.child template.1
  match path.parent? with
  | none => pure ()
  | some parent => Task.makePath none parent
  Task.change (.writeTemplate path) fun tree => tree.writeText path template.2

def writeTemplates (directory : Path) : Task Unit :=
  Template.Embedded.all.forM (writeTemplate directory)

def makeDirectory (directory : Path) : Task Unit := do
  let tree ← Task.tree
  if tree.hasAt directory then pure ()
  else Task.makePath (some (.makeDirectory directory)) directory

/-- Writes the files that a project starts with; those that are there are kept,
unless they are to be replaced. -/
def write (directory : Path) (force : Bool) : Task Unit := do
  makeDirectory directory
  writeUnlessKept (samplePath directory) force (writeSample (samplePath directory))
  writeUnlessKept (templatesPath directory) force (writeTemplates (templatesPath directory))
  Task.tell .scaffolded

end IconForge.Scaffold
