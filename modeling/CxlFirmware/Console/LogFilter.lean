import CxlFirmware.Log
import CxlFirmware.Text.Blank
import CxlFirmware.Text.Parts
import CxlFirmware.Text.Pattern.Reading

/-!
# Log filters

A filter tells which log records are shown.  Its rules give the lightest level for the
origins that begin in a certain way, the longest beginning counts, and a pattern may
have to occur in the message.  `LogFilter.read` reads a written filter such as
`info,cxlfw::poll=trace/mem0`, and complains about what makes no sense in it.
-/

namespace CxlFirmware.Console

/-- A rule about the log records of some origins. -/
structure LogRule where
  /-- How the origins begin; without a beginning, the rule is about all of them. -/
  beginning : Option String
  /-- The lightest level that is shown, if any is. -/
  threshold : Option LogLevel
  deriving DecidableEq, Repr

namespace LogRule

/-- Whether a rule is about an origin. -/
def covers (rule : LogRule) (origin : String) : Bool :=
  rule.beginning.all fun beginning => origin.startsWith beginning

/-- The count of characters that a rule asks for. -/
def weight (rule : LogRule) : Nat :=
  (rule.beginning.map String.length).getD 0

/-- Whether a rule lets a level through. -/
def admits (rule : LogRule) (level : LogLevel) : Bool :=
  rule.threshold.any fun threshold => level.rank ≤ threshold.rank

/-- The rule that counts for an origin: of the weightiest ones about it, the last. -/
def deciding? (rules : List LogRule) (origin : String) : Option LogRule :=
  (rules.filter fun rule => rule.covers origin).foldl (fun best rule =>
    if best.all fun best => best.weight ≤ rule.weight then some rule else best) none

/-- The rules with one more rule, which takes the place of one with its beginning. -/
def insert (rules : List LogRule) (rule : LogRule) : List LogRule :=
  match rules with
  | [] => [rule]
  | old :: rest =>
    if old.beginning = rule.beginning then rule :: rest else old :: insert rest rule

end LogRule

/-- A test on log records. -/
structure LogFilter where
  rules : List LogRule
  /-- What has to occur in the message. -/
  pattern : Option Text.Pattern
  deriving DecidableEq

/-- What is wrong with a part of a written filter. -/
inductive LogFilterFault where
  | unknown (part : String)
  | tooManyParts (text : String)
  | badPattern (pattern : String) (error : Text.PatternError)
  deriving DecidableEq

/-- The text of a fault. -/
def LogFilterFault.text : LogFilterFault → String
  | unknown part => "invalid logging spec '" ++ part ++ "'"
  | tooManyParts text => "invalid logging spec '" ++ text ++ "' (too many '/'s)"
  | badPattern pattern error => "invalid regex filter - " ++ error.text pattern

namespace LogFilter

/-- The filter that lets everything through down to a level. -/
def ofThreshold (threshold : LogLevel) : LogFilter :=
  ⟨[⟨none, some threshold⟩], none⟩

/-- Whether a record is shown. -/
def admits (filter : LogFilter) (record : LogRecord) : Bool :=
  ((LogRule.deciding? filter.rules record.origin).any fun rule => rule.admits record.level)
    && filter.pattern.all fun pattern => pattern.occursIn record.message

/-! ## Written filters -/

/-- The threshold that a word names, in any case of its letters. -/
def threshold? (word : List Char) : Option (Option LogLevel) :=
  match (String.ofList word).toLower with
  | "off" => some none
  | "error" => some (some .error)
  | "warn" => some (some .warn)
  | "info" => some (some .info)
  | "debug" => some (some .debug)
  | "trace" => some (some .trace)
  | _ => none

/-- The rule that lets all records through whose origins begin in a certain way. -/
def ruleFor (beginning : List Char) : LogRule :=
  ⟨some (String.ofList beginning), some .trace⟩

/-- The rule that a part of a written filter states. -/
def readRule (part : List Char) : Except LogFilterFault LogRule :=
  match Text.split '=' part with
  | [word] =>
    match threshold? word with
    | some threshold => .ok ⟨none, threshold⟩
    | none => .ok (ruleFor word)
  | [beginning, word] =>
    match Text.trim word with
    | [] => .ok (ruleFor beginning)
    | word =>
      match threshold? word with
      | some threshold => .ok ⟨some (String.ofList beginning), threshold⟩
      | none => .error (.unknown (String.ofList word))
  | _ => .error (.unknown (String.ofList part))

/-- The rules that the parts of a written filter state, and their faults. -/
def readRules (text : List Char) : List LogRule × List LogFilterFault :=
  let parts := ((Text.split ',' text).map Text.trim).filter fun part => !part.isEmpty
  parts.foldl (fun (rules, faults) part =>
    match readRule part with
    | .ok rule => (LogRule.insert rules rule, faults)
    | .error fault => (rules, faults ++ [fault])) ([], [])

/-- The pattern behind the rules, if it is one. -/
def readPattern (text : List Char) : Option Text.Pattern × List LogFilterFault :=
  match Text.Pattern.read (String.ofList text) with
  | .ok pattern => (some pattern, [])
  | .error error => (none, [.badPattern (String.ofList text) error])

/-- The filter of rules.  Without a rule, only errors are shown. -/
def ofRules (rules : List LogRule) (pattern : Option Text.Pattern) : LogFilter :=
  if rules.isEmpty then ⟨[⟨none, some .error⟩], pattern⟩ else ⟨rules, pattern⟩

/-- The filter that a text describes, and what makes no sense in it. -/
def read (text : String) : LogFilter × List LogFilterFault :=
  match Text.split '/' text.toList with
  | [] => (ofRules [] none, [])
  | [rules] =>
    let (rules, faults) := readRules rules
    (ofRules rules none, faults)
  | [rules, pattern] =>
    let (rules, faults) := readRules rules
    let (pattern, patternFaults) := readPattern pattern
    (ofRules rules pattern, faults ++ patternFaults)
  | _ => (ofRules [] none, [.tooManyParts text])

end LogFilter

end CxlFirmware.Console
