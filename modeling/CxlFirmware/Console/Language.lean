import CxlFirmware.Console.Word
import CxlFirmware.Environment

/-!
# Languages

Messages come in two languages.  The language is chosen by a locale, which is named on
the command line, in a variable, or by the settings of the system.
-/

namespace CxlFirmware.Console

/-- A language of messages. -/
inductive Language where
  | english
  | chinese
  deriving DecidableEq, Repr

namespace Language

/-- The language of a locale: Chinese for the locale `zh-CN` and those that add
something to it after a dash, and English for all others. -/
def ofLocale (locale : String) : Language :=
  if locale = "zh-CN" ∨ locale.startsWith "zh-CN-" then chinese else english

/-- The locale that a system locale stands for.  What follows a period or an at sign
plays no part. -/
def normalize (systemLocale : String) : String :=
  let letters := (systemLocale.toList.takeWhile fun c => c != '.' && c != '@').map fun c =>
    if c = '_' then '-' else c
  let locale := String.ofList letters
  if locale = "en" ∨ locale = "zh-CN" then locale
  else if (String.ofList (letters.takeWhile (· != '-'))).toLower = "zh" then "zh-CN"
  else "en"

/-- The first locale of a list between colons. -/
def firstLocale (locales : String) : String :=
  String.ofList (locales.toList.takeWhile (· != ':'))

/-- The locale of the system.  A list of locales counts more than a single one, and a
variable that is empty does not count. -/
def systemLocale (environment : Environment) : String :=
  match environment.nonempty? "LANGUAGE" with
  | some locales => normalize (firstLocale locales)
  | none =>
    match ["LC_ALL", "LC_MESSAGES", "LANG"].findSome? environment.nonempty? with
    | some locale => normalize locale
    | none => "en"

/-- The locale that a command line names, the last one if there are several. -/
def named? : List String → Option String
  | [] => none
  | word :: rest =>
    match named? rest, Word.ofText word with
    | some locale, _ => some locale
    | none, .long "lang" (some locale) => some locale
    | none, .long "lang" none => rest.head?
    | none, _ => none

/-- The locale of a command line and the variables. -/
def locale (environment : Environment) (words : List String) : String :=
  match named? words, environment.value? "CXLFW_LANG" with
  | some locale, _ => locale
  | none, some locale => locale
  | none, none => systemLocale environment

end Language

end CxlFirmware.Console
