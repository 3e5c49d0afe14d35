import CxlFirmware.Console.Language
import CxlFirmware.Console.Level

/-!
# Help

The texts that explain the program and its subcommands, in the language of the user
where the help is asked for by a word of its own, and in English elsewhere.
-/

namespace CxlFirmware.Console

/-- The version of the program. -/
def programVersion : String := "0.2.0"

/-! ## Descriptions -/

/-- What a subcommand does. -/
def Subcommand.about : Language → Subcommand → String
  | .english, updateFw => "Transfer a firmware image to a slot"
  | .english, activateFw => "Activate a firmware slot"
  | .english, fwInfo => "Show firmware slot information"
  | .english, bgStatus => "Show the status of the last background operation"
  | .english, completions => "Generate shell completion scripts"
  | .chinese, updateFw => "将固件镜像传输到指定槽位"
  | .chinese, activateFw => "激活固件槽位"
  | .chinese, fwInfo => "显示固件槽位信息"
  | .chinese, bgStatus => "显示最近一次后台操作的状态"
  | .chinese, completions => "生成 Shell 补全脚本"

/-- What an argument means, in English. -/
def Argument.english : Argument → String
  | device => "Memory device to operate on (e.g., mem0)"
  | emulatorState => "File holding the emulated device state"
  | config => "Path to a configuration file"
  | language => "Language/locale for messages (e.g., en, zh-CN)"
  | verbose => "Verbose output level (-v, -vv for increasing detail)"
  | quiet => "Quiet mode (suppress non-essential output)"
  | nonInteractive => "Non-interactive mode (fail instead of prompting)"
  | help => "Print help"
  | version => "Print version"
  | image => "Path to the firmware image"
  | slot => "Firmware slot"
  | hbo => "Use the vendor background (HBO) commands"
  | osImage => "Transfer an OS image instead of device firmware"
  | mock => "Send the first block, then abort"
  | action => "When the slot takes effect (online, on-reset)"
  | confirmed => "Skip the confirmation prompt"
  | json => "Output in JSON format"
  | shell => "Shell type (detected from $SHELL if omitted)"

/-- What an argument means, in Chinese. -/
def Argument.chinese : Argument → String
  | device => "要操作的内存设备 (例如 mem0)"
  | emulatorState => "保存模拟设备状态的文件"
  | config => "配置文件路径"
  | language => "消息语言 (例如 en, zh-CN)"
  | verbose => "详细输出级别 (-v, -vv 逐级增加)"
  | quiet => "安静模式 (隐藏非必要输出)"
  | nonInteractive => "非交互模式 (需要确认时直接失败)"
  | help => "显示帮助"
  | version => "显示版本"
  | image => "固件镜像路径"
  | slot => "固件槽位"
  | hbo => "使用厂商后台 (HBO) 命令"
  | osImage => "传输 OS 镜像而不是设备固件"
  | mock => "只发送第一个数据块后中止"
  | action => "槽位生效时机 (online, on-reset)"
  | confirmed => "跳过确认提示"
  | json => "以 JSON 格式输出"
  | shell => "Shell 类型 (省略时根据 $SHELL 检测)"

/-- What an argument means. -/
def Argument.about : Language → Argument → String
  | .english, argument => argument.english
  | .chinese, argument => argument.chinese

namespace Help

/-- What the program does. -/
def programAbout : Language → String
  | .english => "cxlfw - Firmware update and activation for CXL memory devices"
  | .chinese => "cxlfw - CXL 内存设备固件更新与激活工具"

/-- What the subcommand `help` does. -/
def helpAbout : Language → String
  | .english => "Print this message or the help of the given subcommand(s)"
  | .chinese => "显示此帮助信息或指定子命令的帮助"

/-- A heading. -/
inductive Heading where
  | usage
  | commands
  | options

/-- The text of a heading. -/
def Heading.text : Language → Heading → String
  | .english, usage => "Usage"
  | .english, commands => "Commands"
  | .english, options => "Options"
  | .chinese, usage => "用法"
  | .chinese, commands => "命令"
  | .chinese, options => "选项"

/-! ## Layout -/

/-- How an argument is given. -/
def spelling (argument : Argument) : String :=
  match argument.letter? with
  | some letter => "-" ++ letter.toString ++ ", " ++ argument.text
  | none => argument.text

/-- A block with a heading. -/
def block (heading : String) (lines : List String) : String :=
  "\n" ++ heading ++ ":\n" ++ String.join (lines.map fun line => "  " ++ line ++ "\n")

/-- The lines about the arguments of a part. -/
def argumentLines (language : Language) (level : Level) : List String :=
  level.arguments.map fun argument => spelling argument ++ "  " ++ argument.about language

/-- The lines about the subcommands. -/
def commandLines (language : Language) : List String :=
  (Subcommand.all.map fun subcommand => subcommand.name ++ "  " ++ subcommand.about language)
    ++ ["help  " ++ helpAbout language]

/-- The line that shows how a part is used. -/
def usageLine : Level → String
  | .top => "cxlfw [OPTIONS] <COMMAND>"
  | .behind .updateFw => "cxlfw update-fw [OPTIONS] <IMAGE>"
  | .behind .activateFw => "cxlfw activate-fw [OPTIONS] --slot <SLOT>"
  | .behind .completions => "cxlfw completions [OPTIONS] [SHELL]"
  | .behind subcommand => "cxlfw " ++ subcommand.name ++ " [OPTIONS]"

/-! ## Help in the language of the user -/

/-- The subject of a help text. -/
inductive Topic where
  | level (level : Level)
  | help

/-- The topic that a word names. -/
def Topic.ofWord? (word : String) : Option Topic :=
  if word = "help" then some help
  else (Subcommand.ofName? word).map fun subcommand => level (.behind subcommand)

/-- The topic of a command line: the first one that a word names, or the program. -/
def Topic.ofWords (words : List String) : Topic :=
  (words.findSome? ofWord?).getD (level .top)

/-- The help on a topic. -/
def text (language : Language) : Topic → String
  | .level .top =>
    "cxlfw " ++ programVersion ++ "\n\n" ++ programAbout language ++ "\n"
      ++ block (Heading.usage.text language) [usageLine .top]
      ++ block (Heading.commands.text language) (commandLines language)
      ++ block (Heading.options.text language) (argumentLines language .top)
  | .level (.behind subcommand) =>
    subcommand.name ++ " \n\n" ++ subcommand.about language ++ "\n"
      ++ block (Heading.usage.text language) [usageLine (.behind subcommand)]
      ++ block (Heading.options.text language) (argumentLines language (.behind subcommand))
  | .help => helpAbout language ++ "\n\nUsage: help\n"

/-- Whether a command line asks for help by a word of its own, or has no word. -/
def isWanted (words : List String) : Bool :=
  words.isEmpty || words.any fun word => word == "-h" || word == "--help"

/-! ## Short help -/

/-- What a part is for, in the short help. -/
def shortAbout : Level → String
  | .top => "Command-line tool for updating and activating CXL memory device firmware"
  | .behind subcommand => subcommand.about .english

/-- The short help on a part. -/
def short (level : Level) : String :=
  shortAbout level ++ "\n\nUsage: " ++ usageLine level ++ "\n"
    ++ (match level with
      | .top => block "Commands" (commandLines .english)
      | .behind _ => "")
    ++ block "Options" (argumentLines .english level)

/-- The short help on the subcommand `help`. -/
def shortOnHelp : String :=
  helpAbout .english ++ "\n\nUsage: cxlfw help [COMMAND]...\n"

end Help

end CxlFirmware.Console
