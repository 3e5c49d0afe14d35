import CxlFirmware.Activation
import CxlFirmware.Console.Language

/-!
# Messages

What the commands tell their user, in each language.  Names and error texts in a
message are the same in both.
-/

namespace CxlFirmware.Console

/-- Something to tell the user. -/
inductive Message where
  /-- An image is about to be read. -/
  | loadingImage (path : String)
  /-- A transfer to a slot is about to start. -/
  | transferringToSlot (slot : UInt8) (bytes blocks : Nat) (device : String)
  /-- A transfer of an operating system image is about to start. -/
  | transferringOsImage (bytes blocks : Nat) (device : String)
  | transferCompleted (blocks bytes : Nat)
  | mockCompleted
  | mockAbortFailed (error : String)
  /-- An activation is about to start. -/
  | activating (slot : UInt8) (action : Activation.Action) (device : String)
  | activated (slot : UInt8) (action : Activation.Action)
  | confirmationNeeded
  | shellNeeded
  | deviceName (name : String)
  | slotsSupported (count : UInt8)
  | activeSlot (slot : UInt8)
  | stagedSlot (slot : Option UInt8)
  | onlineActivation (supported : Bool)
  /-- One slot with its revision and whether it is active or staged. -/
  | slotLine (slot : UInt8) (revision : Option String) (active staged : Bool)
  | running (percent : UInt8)
  | idle
  | lastCommand (label : String)
  | result (status : String) (code : UInt16)
  | vendorStatus (code : String)
  | loadImageFailed (path : String)
  | claimFailed
  | transferFailed
  | activateFailed (slot : UInt8)
  | queryFailed
  deriving DecidableEq

namespace Message

/-- The marks of a slot in parentheses, if there are any. -/
def marks (activeMark stagedMark : String) (active staged : Bool) : String :=
  match active, staged with
  | false, false => ""
  | true, false => " (" ++ activeMark ++ ")"
  | false, true => " (" ++ stagedMark ++ ")"
  | true, true => " (" ++ activeMark ++ ", " ++ stagedMark ++ ")"

/-- The number of a slot. -/
def slotText (slot : UInt8) : String :=
  Nat.repr slot.toNat

/-- A message in English. -/
def english : Message → String
  | loadingImage path => "Loading image: " ++ path
  | transferringToSlot slot bytes blocks device =>
    "Transferring " ++ Nat.repr bytes ++ " bytes in " ++ Nat.repr blocks
      ++ " block(s) to slot " ++ slotText slot ++ " on " ++ device
  | transferringOsImage bytes blocks device =>
    "Transferring " ++ Nat.repr bytes ++ " bytes in " ++ Nat.repr blocks
      ++ " block(s) to OS image on " ++ device
  | transferCompleted blocks bytes =>
    "Transfer complete (" ++ Nat.repr blocks ++ " block(s), " ++ Nat.repr bytes ++ " bytes)"
  | mockCompleted => "Mock transfer accepted and aborted; device firmware unchanged"
  | mockAbortFailed error => "Mock transfer abort failed: " ++ error
  | activating slot action device =>
    "Activating slot " ++ slotText slot ++ " (" ++ action.text ++ ") on " ++ device
  | activated slot .online => "Slot " ++ slotText slot ++ " is now running"
  | activated slot .onNextReset =>
    "Slot " ++ slotText slot ++ " will run after the next reset"
  | confirmationNeeded => "Activation needs confirmation; pass --yes in non-interactive mode"
  | shellNeeded => "Specify a shell type, e.g.: cxlfw completions bash"
  | deviceName name => "Device: " ++ name
  | slotsSupported count => "Slots supported: " ++ Nat.repr count.toNat
  | activeSlot slot => "Active slot: " ++ slotText slot
  | stagedSlot slot => "Staged slot: " ++ (slot.map slotText).getD "none"
  | onlineActivation supported => "Online activation: " ++ if supported then "yes" else "no"
  | slotLine slot revision active staged =>
    "Slot " ++ slotText slot ++ ": " ++ revision.getD "<empty>"
      ++ marks "active" "staged" active staged
  | running percent => "State: running (" ++ Nat.repr percent.toNat ++ "%)"
  | idle => "State: idle"
  | lastCommand label => "Last command: " ++ label
  | result status code => "Result: " ++ status ++ " (" ++ Nat.repr code.toNat ++ ")"
  | vendorStatus code => "Vendor status: " ++ code
  | loadImageFailed path => "Failed to load image: " ++ path
  | claimFailed => "Cannot start a firmware operation"
  | transferFailed => "Firmware transfer failed"
  | activateFailed slot => "Activation of slot " ++ slotText slot ++ " failed"
  | queryFailed => "Device query failed"

/-- A message in Chinese. -/
def chinese : Message → String
  | loadingImage path => "正在加载镜像: " ++ path
  | transferringToSlot slot bytes blocks device =>
    "正在向 " ++ device ++ " 的槽位 " ++ slotText slot ++ "传输 " ++ Nat.repr bytes
      ++ " 字节 (" ++ Nat.repr blocks ++ " 个数据块)"
  | transferringOsImage bytes blocks device =>
    "正在向 " ++ device ++ " 的OS 镜像传输 " ++ Nat.repr bytes
      ++ " 字节 (" ++ Nat.repr blocks ++ " 个数据块)"
  | transferCompleted blocks bytes =>
    "传输完成 (" ++ Nat.repr blocks ++ " 个数据块, " ++ Nat.repr bytes ++ " 字节)"
  | mockCompleted => "模拟传输已被接受并中止, 设备固件未改变"
  | mockAbortFailed error => "模拟传输中止失败: " ++ error
  | activating slot action device =>
    "正在激活 " ++ device ++ " 的槽位 " ++ slotText slot ++ " (" ++ action.text ++ ")"
  | activated slot .online => "槽位 " ++ slotText slot ++ " 已开始运行"
  | activated slot .onNextReset => "槽位 " ++ slotText slot ++ " 将在下次复位后运行"
  | confirmationNeeded => "激活需要确认; 非交互模式下请使用 --yes"
  | shellNeeded => "请指定 Shell 类型, 例如: cxlfw completions bash"
  | deviceName name => "设备: " ++ name
  | slotsSupported count => "支持的槽位数: " ++ Nat.repr count.toNat
  | activeSlot slot => "当前运行槽位: " ++ slotText slot
  | stagedSlot slot => "待生效槽位: " ++ (slot.map slotText).getD "无"
  | onlineActivation supported => "支持在线激活: " ++ if supported then "是" else "否"
  | slotLine slot revision active staged =>
    "槽位 " ++ slotText slot ++ ": " ++ revision.getD "<空>"
      ++ marks "运行中" "待生效" active staged
  | running percent => "状态: 运行中 (" ++ Nat.repr percent.toNat ++ "%)"
  | idle => "状态: 空闲"
  | lastCommand label => "最近命令: " ++ label
  | result status code => "结果: " ++ status ++ " (" ++ Nat.repr code.toNat ++ ")"
  | vendorStatus code => "厂商状态: " ++ code
  | loadImageFailed path => "加载镜像失败: " ++ path
  | claimFailed => "无法开始固件操作"
  | transferFailed => "固件传输失败"
  | activateFailed slot => "激活槽位 " ++ slotText slot ++ " 失败"
  | queryFailed => "设备查询失败"

/-- A message in a language. -/
def text (message : Message) : Language → String
  | .english => message.english
  | .chinese => message.chinese

end Message

end CxlFirmware.Console
