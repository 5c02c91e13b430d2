import IconForge.Config
import IconForge.Files.Access
import IconForge.Launch
import IconForge.Module.Error
import IconForge.Svg.Error
import IconForge.Template.Value

/-!
Contract: why a run fails.

Owns: what is refused, what was being done when something failed, the causes
behind a failure, and the wording of all this.
-/

namespace IconForge

open IconForge.Files

/-- What a run does not accept. -/
inductive Refusal where
  | noIconsDirectory (path : Path)
  | unreadableName (path : Path)
  | noTemplatesDirectory (path : Path)
  | noConfigFile (path : Path)
  | emptyCommand
  | failedCommand (status : Nat) (line : String)
deriving DecidableEq, Repr

namespace Refusal

def message : Refusal → String
  | noIconsDirectory path => "图标目录不存在: " ++ path.text
  | unreadableName path => "无法识别的文件名: " ++ path.text
  | noTemplatesDirectory path => "模板目录不存在: " ++ path.text
  | noConfigFile path => "配置文件不存在: " ++ path.text
  | emptyCommand => "刷新命令为空"
  | failedCommand status line =>
    "刷新命令执行失败（exit status: " ++ toString status ++ "）: " ++ line

end Refusal

/-- What a run does that may fail for a cause outside of it. -/
inductive Action where
  | listDirectory (path : Path)
  | readDrawing (path : Path)
  | optimizeDrawing (path : Path)
  | parseDrawing (path : Path)
  | makeDirectory (path : Path)
  | writeModule (path : Path)
  | readModule (path : Path)
  | parseModule (path : Path)
  | loadTemplates (pattern : Path)
  | loadEmbedded
  | renderTemplate (name : String)
  | writeOutput (path : Path)
  | writeSample (path : Path)
  | writeTemplate (path : Path)
  | readConfig (path : Path)
  | parseConfig (path : Path)
  | launchCommand (line : String)
deriving DecidableEq, Repr

namespace Action

def label : Action → String
  | listDirectory path => "读取目录失败: " ++ path.text
  | readDrawing path => "读取 SVG 失败: " ++ path.text
  | optimizeDrawing path => "优化 SVG 失败: " ++ path.text
  | parseDrawing path => "解析 SVG 失败: " ++ path.text
  | makeDirectory path => "创建目录失败: " ++ path.text
  | writeModule path => "写入中间模块失败: " ++ path.text
  | readModule path => "读取中间模块失败: " ++ path.text ++ "（是否已运行 convert？）"
  | parseModule path => "解析中间模块失败: " ++ path.text
  | loadTemplates pattern => "加载模板失败: " ++ pattern.text
  | loadEmbedded => "加载内置模板失败"
  | renderTemplate name => "渲染模板 " ++ name ++ " 失败"
  | writeOutput path => "写入失败: " ++ path.text
  | writeSample path => "写入示例配置失败: " ++ path.text
  | writeTemplate path => "写出模板文件失败: " ++ path.text
  | readConfig path => "读取配置失败: " ++ path.text
  | parseConfig path => "解析 YAML 失败: " ++ path.text
  | launchCommand line => "无法启动刷新命令: " ++ line

end Action

/-- What made an action fail. -/
inductive Cause where
  | files (error : Files.Error)
  | drawing (error : Svg.Error)
  | collection (error : Module.Error)
  | template (error : Template.Error)
  | config (error : Config.Error)
  | launch (error : LaunchError)
deriving DecidableEq, Repr

namespace Cause

def chain : Cause → List String
  | files error => [error.message]
  | drawing error => error.chain
  | collection error => error.chain
  | template error => error.chain
  | config error => [error.message]
  | launch error => [error.message]

end Cause

/-- Why a run fails. -/
inductive Fault where
  | refused (refusal : Refusal)
  | failed (action : Option Action) (cause : Cause)
deriving DecidableEq, Repr

namespace Fault

/-- The wordings of a fault and of all causes behind it. -/
def chain : Fault → List String
  | refused refusal => [refusal.message]
  | failed action cause => (action.map Action.label).toList ++ cause.chain

/-- The wording of a fault together with its causes. -/
def message (fault : Fault) : String :=
  String.intercalate ": " fault.chain

end Fault

end IconForge
