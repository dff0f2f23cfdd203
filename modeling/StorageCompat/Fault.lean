import StorageCompat.Alignment.Action
import StorageCompat.Files.Path
import StorageCompat.Toml.Refusal

/-!
Everything that can go wrong, by its cause, and the wording of each cause. Causes that lie
in the input itself are the ones that the command reports; the others end it.
-/

namespace StorageCompat

open Files (Path)

inductive Request where
  /-- An entry that may be absent, of a value that is no object. -/
  | optionalEntry
  /-- All entries, of a value that is no object. -/
  | entries
  /-- An entry that has to be there, of a value that is no object. -/
  | entry
  /-- The elements of a value that has none. -/
  | elements
  /-- The characters of a value that is no text. -/
  | characters
  /-- A list or an object as the key of a table. -/
  | tableKey
  /-- A cost of a name that no cost has. -/
  | cost
  deriving DecidableEq, Repr

inductive TypeDescription where
  | identifier
  | label
  deriving DecidableEq, Repr

def TypeDescription.entry : TypeDescription → String
  | .identifier => "typeIdentifier"
  | .label => "typeString"

inductive CostFault where
  /-- The value is no whole number above zero. -/
  | notPositive (name : String) (value : Value)
  /-- Replacing must cost more than either of its halves. -/
  | replaceTooCheap (replace typeChange rename : Nat)

/-- The wording for a number that is too long; its digits are counted only where it was to be
read. -/
def tooLongMessage (digits : Option Nat) : String :=
  let count := match digits with
    | some digits => ": value has " ++ toString digits ++ " digits"
    | none => ""
  "Exceeds the limit (" ++ toString Numeral.longest ++
    " digits) for integer string conversion" ++ count ++
    "; use sys.set_int_max_str_digits() to increase the limit"

namespace CostFault

def fullMessage : CostFault → String
  | .notPositive name value => "代价 " ++ name ++ " 必须是正整数: " ++ value.shown
  | .replaceTooCheap replace typeChange rename =>
      "replace 代价(" ++ toString replace ++ ")必须大于 typechange(" ++ toString typeChange ++
        ") 和 rename(" ++ toString rename ++ ")"

def isWritable : CostFault → Bool
  | .notPositive _ value => value.isWritable
  | .replaceTooCheap replace typeChange rename =>
      [replace, typeChange, rename].all Numeral.isWritable

def message (fault : CostFault) : String :=
  if fault.isWritable then fault.fullMessage else tooLongMessage none

end CostFault

inductive SettingsFault where
  | sectionNotTable
  | unknownEntries (names : List String)
  | includeEqualNotBool (value : Value)
  | costsNotTable
  | unknownCosts (names : List String)
  | costs (fault : CostFault)
  /-- The file is not written as settings are. -/
  | unreadable (path : Path)

def shownNames (names : List String) : String :=
  (Value.list (names.map Value.text)).shown

def SettingsFault.message : SettingsFault → String
  | .sectionNotTable => "[storage_check] 必须是表"
  | .unknownEntries names => "[storage_check] 中存在未知配置项: " ++ shownNames names
  | .includeEqualNotBool value => "include_equal 必须是布尔值: " ++ value.shown
  | .costsNotTable => "[storage_check.costs] 必须是表"
  | .unknownCosts names => "[storage_check.costs] 中存在未知配置项: " ++ shownNames names
  | .costs fault => "代价配置非法: " ++ fault.message
  | .unreadable path => "配置文件解析失败 (" ++ path.text ++ "): <toml>"

inductive FileFault where
  | notFound
  | isDirectory
  | notDirectory
  | alreadyExists
  | notUtf8
  /-- The path, or a name in it, is longer than files can be named. -/
  | nameTooLong
  /-- The path has a character that no path can have. -/
  | nullCharacter
  deriving DecidableEq, Repr

inductive Fault where
  /-- An object lacks an entry that has to be there. -/
  | missingEntry (name : String)
  /-- A value was used as a kind of value that it is not. -/
  | unsuited (request : Request)
  /-- A type identifier has to be text. -/
  | identifierNotText (value : Value)
  /-- A run of escape characters is not made of escapes. -/
  | undecodable (run identifier : String)
  /-- The parenthesis behind the name of a kind of type is never closed. -/
  | unclosed (identifier : String)
  /-- A variable is declared without one of the texts that describe its type. -/
  | undescribed (contract name : Value) (missing : TypeDescription)
  /-- A saved layout is not built as layouts are; the missing entry, if that is why. -/
  | malformedLayout (missing : Option String)
  /-- Variables of a layout have types that it does not list. -/
  | unregisteredTypes (types : List Value)
  | contractNotFound (name : Value)
  | costs (fault : CostFault)
  /-- A comparison of two elements gave an answer that pairs nothing. -/
  | illegalAnswer (answer : Alignment.Answer)
  | settings (fault : SettingsFault)
  | settingsNotFound (path : Path)
  | inputNotFound (path : Path)
  /-- A settings file led its reader nowhere. -/
  | deadEnd (refusal : Toml.Refusal)
  /-- A whole number has too many digits to be written, or so many that it is not read. -/
  | numberTooLong (digits : Option Nat)
  /-- An input file is not JSON. -/
  | notJson
  /-- The value in an input file is no object. -/
  | unrecognised (path : Path)
  /-- Compiler output names many contracts, and none was chosen. -/
  | contractNotChosen (path : Path)
  | file (fault : FileFault)

namespace Fault

/-- The wording of a cause. A detail that another reader words stands in angle brackets. -/
def message : Fault → String
  | .missingEntry name => Text.quoted name
  | .unsuited _ => "<mismatch>"
  | .identifierNotText value => "typeIdentifier 必须是字符串: " ++ value.shown
  | .undecodable run identifier =>
      "无法解码的转义序列 " ++ Text.quoted run ++ " (位于 " ++ Text.quoted identifier ++ ")"
  | .unclosed identifier => "括号未闭合: " ++ Text.quoted identifier
  | .undescribed contract name missing =>
      contract.inline ++ "." ++ name.inline ++ " 缺少 " ++ missing.entry
  | .malformedLayout (some name) => "存储布局数据格式错误: " ++ Text.quoted name
  | .malformedLayout none => "存储布局数据格式错误: <mismatch>"
  | .unregisteredTypes types => "存储布局引用了未登记的类型: " ++ (Value.list types).shown
  | .contractNotFound name => "编译输出中未找到合约: " ++ name.inline
  | .costs fault => fault.message
  | .illegalAnswer answer =>
      if answer.isWritable then "match 函数返回了非法结果: " ++ answer.shown
      else tooLongMessage none
  | .settings fault => fault.message
  | .settingsNotFound path => "未找到配置文件 (" ++ path.text ++ ")"
  | .inputNotFound path => "输入文件不存在: " ++ path.text
  | .deadEnd _ => "<mismatch>"
  | .numberTooLong digits => tooLongMessage digits
  | .notJson => "<json>"
  | .unrecognised path => "无法识别的输入格式: " ++ path.text
  | .contractNotChosen path => path.text ++ " 是编译输出,需要通过 --contract 指定合约名"
  | .file .nullCharacter => "embedded null byte"
  | .file _ => "<file>"

/-- The causes that lie in what the input says, and not in how it was handled. -/
def isInputFault : Fault → Bool
  | .missingEntry _ | .unsuited _ | .costs _ | .illegalAnswer _ => false
  | .deadEnd _ | .numberTooLong _ | .file _ => false
  | _ => true

end Fault

end StorageCompat
