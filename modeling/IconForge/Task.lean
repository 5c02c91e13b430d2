import IconForge.Config.Source
import IconForge.Fault

/-!
Contract: runs as steps that change files, give notice and may fail.

Owns:
- what is told on the way, with its wording;
- the state of a run, and steps that read it, change it or fail;
- writing a text to a file whose directory may be missing.

Does not own: which steps a run takes.
-/

namespace IconForge

open IconForge.Files

/-- How much a notice matters. -/
inductive Level where
  | info
  | warning
deriving DecidableEq, Repr

/-- What is told on the way. -/
inductive Notice where
  | configSource (source : Config.Source)
  | refreshSkipped
  | refreshStarted (line : String)
  | refreshDone
  | variantSkipped (directory : Path)
  | oddIconName (file : Path)
  | gathered (count : Nat)
  | converted (count : Nat) (module : Path)
  | templatesUsed (directory : Path)
  | moduleRead (module : Path) (count : Nat)
  | fallbackMissing (icon : String)
  | variantsWritten (count : Nat)
  | componentsWritten (count : Nat)
  | indexWritten (file : Path)
  | generated (directory : Path)
  | written (path : Path)
  | kept (path : Path)
  | scaffolded
deriving DecidableEq, Repr

namespace Notice

def level : Notice → Level
  | variantSkipped _ => .warning
  | oddIconName _ => .warning
  | fallbackMissing _ => .warning
  | kept _ => .warning
  | _ => .info

def message : Notice → String
  | configSource source => "ℹ️ 本次使用的配置来源: " ++ source.describe
  | refreshSkipped => "已跳过上游刷新"
  | refreshStarted line => "🔄 更新上游图标源: " ++ line
  | refreshDone => "✅ 上游图标源已更新"
  | variantSkipped directory => "⚠️ 变体目录不存在，已跳过: " ++ directory.text
  | oddIconName file => "⚠️ 图标名不是小写连字符形式: " ++ file.text
  | gathered count => "共汇总 " ++ toString count ++ " 个图标"
  | converted count module => "✅ 已转换 " ++ toString count ++ " 个图标 -> " ++ module.text
  | templatesUsed directory => "使用模板目录: " ++ directory.text
  | moduleRead module count =>
    "读取中间模块: " ++ module.text ++ "（" ++ toString count ++ " 个图标）"
  | fallbackMissing icon =>
    "⚠️ 图标 " ++ icon ++ " 缺少 regular 变体，未指定 variant 时不会渲染内容"
  | variantsWritten count => "✅ 已生成 " ++ toString count ++ " 个图标的变体映射"
  | componentsWritten count => "✅ 已生成 " ++ toString count ++ " 个图标组件"
  | indexWritten file => "✅ 已生成 index 文件 -> " ++ file.text
  | generated directory => "✅ 生成完成 -> " ++ directory.text
  | written path => "写入: " ++ path.text
  | kept path => "跳过: " ++ path.text ++ " 已存在，使用 --force 可覆盖"
  | scaffolded => "✅ 初始化完成，在根目录运行: zappgen build"

end Notice

/-- The files and the notices given so far. -/
structure World where
  tree : Tree
  notices : List Notice

namespace World

def ofTree (tree : Tree) : World where
  tree := tree
  notices := []

end World

/-- A step of a run. What it has done before it fails stays done. -/
abbrev Task := ExceptT Fault (StateM World)

namespace Task

def perform {α : Type} (task : Task α) (world : World) : Except Fault α × World :=
  (ExceptT.run task).run world

def tree : Task Tree := do
  let world ← get
  return world.tree

def tell (notice : Notice) : Task Unit :=
  modify fun world => { world with notices := world.notices ++ [notice] }

def refuse {α : Type} (refusal : Refusal) : Task α :=
  throw (.refused refusal)

def ofExcept {α : Type} (outcome : Except Fault α) : Task α :=
  match outcome with
  | .ok value => pure value
  | .error fault => throw fault

end Task

def during {α ε : Type} (action : Action) (cause : ε → Cause) (outcome : Except ε α) :
    Except Fault α :=
  match outcome with
  | .ok value => .ok value
  | .error error => .error (.failed (some action) (cause error))

namespace Task

def change (action : Action) (changed : Tree → Except Files.Error Tree) : Task Unit := do
  let before ← tree
  let behind ← ofExcept (during action .files (changed before))
  modify fun world => { world with tree := behind }

def makePath (action : Option Action) (path : Path) : Task Unit := do
  let before ← tree
  let (behind, error) := before.makePath path
  modify fun world => { world with tree := behind }
  match error with
  | none => pure ()
  | some error => throw (.failed action (.files error))

/-- Makes the directory of a file, if there is none. -/
def makeParent (path : Path) : Task Unit := do
  match path.parent? with
  | none => pure ()
  | some parent =>
    let before ← tree
    if parent.bytes.isEmpty || before.hasAt parent then pure ()
    else makePath (some (.makeDirectory parent)) parent

/-- Writes a text to a file, whose directory is made if it is missing. -/
def save (action : Action) (path : Path) (text : String) : Task Unit := do
  makeParent path
  change action fun before => before.writeText path text

end Task

end IconForge
