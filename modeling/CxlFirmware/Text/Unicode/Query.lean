import CxlFirmware.Text.Unicode.Age
import CxlFirmware.Text.Unicode.ScriptExtension
import CxlFirmware.Text.Unicode.Segmentation

/-!
# Queries

A query asks for the characters with a property, either by the name of the property or of
a value alone, or by both names.  `Query.chars` answers with the set of the characters.
-/

namespace CxlFirmware.Text.Unicode

/-- A question for characters. -/
inductive Query where
  /-- The characters with a property, of a category or of a script. -/
  | named (name : List Char)
  /-- The characters with a value of a property. -/
  | valued (property value : List Char)
  deriving DecidableEq, Repr

/-- Why a question has no answer. -/
inductive QueryFault where
  | unknownProperty
  | unknownValue
  deriving DecidableEq, Repr

/-- A property with values that can be asked for. -/
inductive ValuedProperty where
  | category
  | script
  | scriptExtension
  | age
  | graphemeBreak
  | wordBreak
  | sentenceBreak
  deriving DecidableEq, Repr

namespace ValuedProperty

/-- The properties with values that can be asked for, with their names. -/
def named : List (ValuedProperty × List String) := [
  (category, ["General_Category", "gc"]),
  (script, ["Script", "sc"]),
  (scriptExtension, ["Script_Extensions", "scx"]),
  (age, ["Age"]),
  (graphemeBreak, ["Grapheme_Cluster_Break", "GCB"]),
  (wordBreak, ["Word_Break", "WB"]),
  (sentenceBreak, ["Sentence_Break", "SB"])]

/-- The property with a loose name. -/
def find? (name : List Char) : Option ValuedProperty :=
  (named.find? fun (_, names) => goesBy name names).map Prod.fst

/-- The rule for the characters with the value of a loose name. -/
def rule? (name : List Char) : ValuedProperty → Option CharRule
  | category => (Unicode.find? categories name).map PropertyValue.rule
  | script => (Unicode.find? scripts name).map PropertyValue.rule
  | scriptExtension => scriptExtension? name
  | age => age? name
  | graphemeBreak => (Unicode.find? graphemeBreaks name).map PropertyValue.rule
  | wordBreak => (Unicode.find? wordBreaks name).map PropertyValue.rule
  | sentenceBreak => (Unicode.find? sentenceBreaks name).map PropertyValue.rule

end ValuedProperty

/-- The names of the properties whose values cannot be asked for. -/
def otherProperties : List String := [
  "Bidi_Class", "bc", "Bidi_Mirroring_Glyph", "bmg", "Bidi_Paired_Bracket", "bpb",
  "Bidi_Paired_Bracket_Type", "bpt", "Block", "blk", "Canonical_Combining_Class", "ccc",
  "Case_Folding", "cf", "Changes_When_NFKC_Casefolded", "CWKCF", "Composition_Exclusion",
  "CE", "Decomposition_Mapping", "dm", "Decomposition_Type", "dt", "East_Asian_Width", "ea",
  "Equivalent_Unified_Ideograph", "EqUIdeo", "Expands_On_NFC", "XO_NFC", "Expands_On_NFD",
  "XO_NFD", "Expands_On_NFKC", "XO_NFKC", "Expands_On_NFKD", "XO_NFKD", "FC_NFKC_Closure",
  "FC_NFKC", "Full_Composition_Exclusion", "Comp_Ex", "Hangul_Syllable_Type", "hst",
  "Indic_Conjunct_Break", "InCB", "Indic_Positional_Category", "InPC",
  "Indic_Syllabic_Category", "InSC", "ISO_Comment", "isc", "Jamo_Short_Name", "JSN",
  "Joining_Group", "jg", "Joining_Type", "jt", "Line_Break", "lb", "Lowercase_Mapping", "lc",
  "Name", "na", "Name_Alias", "NFC_Quick_Check", "NFC_QC", "NFD_Quick_Check", "NFD_QC",
  "NFKC_Casefold", "NFKC_CF", "NFKC_Quick_Check", "NFKC_QC", "NFKC_Simple_Casefold",
  "NFKC_SCF", "NFKD_Quick_Check", "NFKD_QC", "Numeric_Type", "nt", "Numeric_Value", "nv",
  "Simple_Case_Folding", "scf", "sfc", "Simple_Lowercase_Mapping", "slc",
  "Simple_Titlecase_Mapping", "stc", "Simple_Uppercase_Mapping", "suc", "Titlecase_Mapping",
  "tc", "Unicode_1_Name", "na1", "Unicode_Radical_Stroke", "URS", "Uppercase_Mapping", "uc",
  "Vertical_Orientation", "vo", "cjkAccountingNumeric", "kAccountingNumeric",
  "cjkCompatibilityVariant", "kCompatibilityVariant", "cjkIICore", "kIICore",
  "cjkIRG_GSource", "kIRG_GSource", "cjkIRG_HSource", "kIRG_HSource", "cjkIRG_JSource",
  "kIRG_JSource", "cjkIRG_KPSource", "kIRG_KPSource", "cjkIRG_KSource", "kIRG_KSource",
  "cjkIRG_MSource", "kIRG_MSource", "cjkIRG_SSource", "kIRG_SSource", "cjkIRG_TSource",
  "kIRG_TSource", "cjkIRG_UKSource", "kIRG_UKSource", "cjkIRG_USource", "kIRG_USource",
  "cjkIRG_VSource", "kIRG_VSource", "cjkOtherNumeric", "kOtherNumeric",
  "cjkPrimaryNumeric", "kPrimaryNumeric", "cjkRSUnicode", "kRSUnicode"]

/-- Whether a loose name is that of a property. -/
def isProperty (name : List Char) : Bool :=
  (find? properties name).isSome || (ValuedProperty.find? name).isSome
    || goesBy name otherProperties

/-- The names of categories and scripts that no character has. -/
def vacantValues : List String :=
  ["Surrogate", "Cs", "Unknown", "Zzzz", "Katakana_Or_Hiragana", "Hrkt"]

/-- Whether a loose name is that of a category, though also of a property without values
that can be asked for. -/
def meansCategory (name : List Char) : Bool :=
  goesBy name ["cf", "sc", "lc"]

namespace Query

/-- The rule for the characters with a property, of a category or of a script of a loose
name. -/
def namedRule (name : List Char) : Except QueryFault CharRule :=
  match if meansCategory name then none else find? properties name with
  | some property => .ok property.rule
  | none =>
    if isProperty name && !meansCategory name then .error .unknownProperty
    else
      match (find? categories name).or (find? scripts name) with
      | some value => .ok value.rule
      | none => .error (if goesBy name vacantValues then .unknownValue else .unknownProperty)

/-- The rule for the characters with a value of a property, both of them loose names. -/
def valuedRule (property value : List Char) : Except QueryFault CharRule :=
  match ValuedProperty.find? property with
  | some property =>
    match property.rule? value with
    | some rule => .ok rule
    | none => .error .unknownValue
  | none => .error (if isProperty property then .unknownValue else .unknownProperty)

/-- The rule for the characters that a query asks for. -/
def rule : Query → Except QueryFault CharRule
  | named name => namedRule (looseName name)
  | valued property value => valuedRule (looseName property) (looseName value)

/-- The characters that a query asks for. -/
def chars (query : Query) : Except QueryFault CharSet :=
  query.rule.map CharRule.chars

end Query

end CxlFirmware.Text.Unicode
