import RequestSuite.Files.Workspace
import RequestSuite.Template.PathParameter

/-! Why a conversion ends before its end, or a file of its input cannot be used. -/
namespace RequestSuite

inductive Failure where
  | collection (reason : String)
  | request (missing : Template.MissingParameter)
  | config (reason : String)
  | file (fault : Files.Fault)
  | json
  | toml
  | other (reason : String)
  deriving DecidableEq, Repr

def Failure.message : Failure → String
  | collection reason => "无效的集合文件: " ++ reason
  | request missing => "请求解析失败: " ++ missing.message
  | config reason => "配置错误: " ++ reason
  | file fault => "IO 错误: " ++ fault.message
  | json => "JSON 解析错误: not a text of the expected form"
  | toml => "TOML 解析错误: not a text of the expected form"
  | other reason => reason

end RequestSuite
