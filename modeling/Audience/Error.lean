import Audience.Json.Error

/-!
# Errors

`Error` lists what can go wrong between a document and an outcome; `Error.message` words it.
A segment that cannot be used is malformed: the first `Malformation` found is told.
`Error.isRuntime` singles out what can happen while a record is judged.
-/

namespace Audience

/-- A value that a condition may give for its test. -/
inductive Slot where
  | comparison
  | minimum
  | maximum
deriving DecidableEq, Repr

/-- The name of a slot in documents. -/
def Slot.name : Slot → String
  | .comparison => "value_comparison"
  | .minimum => "value_minimum"
  | .maximum => "value_maximum"

/-- Why a segment cannot be used; a condition is told by its place. -/
inductive Malformation where
  | blankName
  | blankVariable (index : Nat)
  | blankTest (index : Nat)
  | badReference (index : Nat) (slot : Slot) (value : Json)
  | unnamedGroup (index : Nat)
  /-- A fault told by a comparison of its own, in its own words. -/
  | other (text : String)
deriving Repr

/-- How a condition is named by its place. -/
def conditionPath (index : Nat) : String :=
  "conditions[" ++ toString index ++ "]"

/-- The words for a malformation. -/
def Malformation.text : Malformation → String
  | .blankName => "分群名称不能为空"
  | .blankVariable i => "条件 '" ++ conditionPath i ++ "' 的 variable_name 不能为空"
  | .blankTest i => "条件 '" ++ conditionPath i ++ "' 的 condition_test 不能为空"
  | .badReference i slot value =>
    "条件 '" ++ conditionPath i ++ "' 的 " ++ slot.name ++ " 为变量引用，需要非空字符串，实际为 " ++
      value.compact
  | .unnamedGroup i =>
    "条件 '" ++ conditionPath i ++ "' 的 rule_type 为 or 时必须提供 rule_name"
  | .other text => text

/-- What can go wrong. -/
inductive Error where
  | malformed (fault : Malformation)
  | noSegments
  | missingVariable (name : String)
  | operatorFailure (operator detail : String)
  | unknownOperator (name : String)
  | operandCount (operator : String) (expected actual : Nat)
  | typeMismatch (expected actual : String)
  | invalidPattern (pattern reason : String)
  | segmentNotFound (name : String)
  | document (fault : Json.Error)
deriving Repr

namespace Error

/-- The words for an error. -/
def message : Error → String
  | malformed fault => "规则编译失败: " ++ fault.text
  | noSegments => "没有可用于评估的分群配置"
  | missingVariable name =>
    "The Variable " ++ name ++ " is required by a Rule but is not defined."
  | operatorFailure operator detail => "操作符 " ++ operator ++ " 执行失败: " ++ detail
  | unknownOperator name => "未知的操作符: " ++ name
  | operandCount operator expected actual =>
    "操作符 " ++ operator ++ " 需要 " ++ toString expected ++ " 个参数, 实际 " ++ toString actual ++ " 个"
  | typeMismatch expected actual => "类型不匹配: 期望 " ++ expected ++ ", 实际 " ++ actual
  | invalidPattern pattern reason => "无效的正则表达式 '" ++ pattern ++ "': " ++ reason
  | segmentNotFound name => "分群未找到: " ++ name
  | document fault => "JSON 序列化错误: " ++ fault.message

/-- Whether an error can arise while a record is judged, and then becomes an outcome. -/
def isRuntime : Error → Bool
  | missingVariable _ | operatorFailure _ _ | unknownOperator _ | operandCount _ _ _
  | typeMismatch _ _ | invalidPattern _ _ => true
  | _ => false

end Error

end Audience
