import IconForge.Files.Path

/-!
Contract: where a configuration comes from.

Owns: the three origins, and their wording.

Does not own: which of them counts.
-/

namespace IconForge.Config

open IconForge.Files

/-- Where a configuration comes from. -/
inductive Source where
  | named (path : Path)
  | found (path : Path)
  | builtIn
deriving DecidableEq, Repr

namespace Source

def describe : Source → String
  | named path => "本地文件: " ++ path.text
  | found path => "本地文件(自动发现): " ++ path.text
  | builtIn => "内置默认值"

end Source

end IconForge.Config
