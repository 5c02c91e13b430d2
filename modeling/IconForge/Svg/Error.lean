import IconForge.Svg.Event
import IconForge.Svg.Reference
import IconForge.Text.Quoted

/-!
Contract: why a text is no drawing.

Owns: the causes, their wording, and the wording together with that of the
causes behind them.
-/

namespace IconForge.Svg

/-- What is wrong with markup or with a reference in it. -/
inductive XmlCause where
  | markup (cause : MarkupError)
  | reference (cause : ReferenceError)
deriving DecidableEq, Repr

namespace XmlCause

def message : XmlCause → String
  | markup cause => cause.message
  | reference cause => cause.message

def chain : XmlCause → List String
  | markup cause => cause.chain
  | reference cause => cause.chain

end XmlCause

/-- Why a text is no drawing. -/
inductive Error where
  /-- The markup or a reference is wrong; the offset is in bytes. -/
  | xml (offset : Nat) (cause : XmlCause)
  | badAttribute (cause : AttributeError)
  | empty
  | notSvg (name : String)
  /-- There is more than one root element. -/
  | multipleRoots
  /-- An element is still open at the end. -/
  | unclosed (name : String)
  /-- There is text outside the root element. -/
  | strayText (value : String)
deriving DecidableEq, Repr

namespace Error

def message : Error → String
  | xml offset cause => "XML 解析失败（偏移 " ++ toString offset ++ "）: " ++ cause.message
  | badAttribute cause => "属性解析失败: " ++ cause.message
  | empty => "文档中没有根元素"
  | notSvg name => "根元素应为 <svg>，实际为 <" ++ name ++ ">"
  | multipleRoots => "文档存在多个根元素"
  | unclosed name => "元素 <" ++ name ++ "> 未闭合"
  | strayText value => "根元素之外出现文本: " ++ Text.Quoted.quote value

/-- The wordings of an error and of all causes behind it. -/
def chain (error : Error) : List String :=
  error.message ::
    (match error with
      | xml _ cause => cause.chain
      | badAttribute cause => [cause.message]
      | _ => [])

end Error

end IconForge.Svg
