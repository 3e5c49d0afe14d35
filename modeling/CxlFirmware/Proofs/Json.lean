import Mathlib.Data.List.TakeWhile
import Mathlib.Tactic.SplitIfs
import CxlFirmware.Json.Reader
import CxlFirmware.Json.Writer
import CxlFirmware.Proofs.Text

/-!
# JSON that is written and read back

`read?_pretty` says that a value without numbers that are kept as they are written is read back
from its text.  The text of a value stands for its `tokens`: `scan_write` is what the scanner
makes of the text, and `reads` is what the reader makes of the tokens.
-/

namespace CxlFirmware.Json

/-! ## The tokens of a value -/

mutual

/-- The tokens of a value. -/
def tokens : Json → List Token
  | .null => [.null]
  | .bool value => [.bool value]
  | .natural value => [.natural value]
  | .decimal written => [.decimal written]
  | .string text => [.string text]
  | .array [] => [.openBracket, .closeBracket]
  | .array (item :: items) =>
    .openBracket :: (tokens item ++ itemsTokens items ++ [.closeBracket])
  | .object [] => [.openBrace, .closeBrace]
  | .object (member :: members) =>
    .openBrace :: (memberTokens member ++ membersTokens members ++ [.closeBrace])

/-- The tokens of further items. -/
def itemsTokens : List Json → List Token
  | [] => []
  | item :: items => .comma :: (tokens item ++ itemsTokens items)

/-- The tokens of a member. -/
def memberTokens : Option String × Json → List Token
  | (name, value) => .string name :: .colon :: tokens value

/-- The tokens of further members. -/
def membersTokens : List (Option String × Json) → List Token
  | [] => []
  | member :: members => .comma :: (memberTokens member ++ membersTokens members)

end

mutual

/-- No number of the value is kept as it is written. -/
def IsPlain : Json → Prop
  | .decimal _ => False
  | .array items => ArePlain items
  | .object members => MembersArePlain members
  | _ => True

/-- The items are plain. -/
def ArePlain : List Json → Prop
  | [] => True
  | item :: items => IsPlain item ∧ ArePlain items

/-- The values of the members are plain. -/
def MembersArePlain : List (Option String × Json) → Prop
  | [] => True
  | (_, value) :: members => IsPlain value ∧ MembersArePlain members

end

/-! ## Scanning words and numbers -/

/-- What follows a word or a number that ends there. -/
def Delimits (rest : List Char) : Prop :=
  ∀ c ∈ rest.head?, c.isLower = false ∧ isNumeric c = false

theorem delimits_nil : Delimits []
  := nofun

theorem delimits_newline (depth : Nat) (rest : List Char) :
  Delimits (newline depth ++ rest)
  := by
  rintro c ⟨⟩
  decide

theorem delimits_comma (rest : List Char) :
  Delimits (',' :: rest)
  := by
  rintro c ⟨⟩
  decide

section

variable {token : Token} {rest : List Char}

/-- A character that ends no token. -/
theorem scanFrom_within {mode mode' : Mode} {c : Char} (h : step mode c = some (mode', [])) :
  scanFrom mode (c :: rest) = scanFrom mode' rest
  := by
  rw [scanFrom, h]
  exact Option.map_id'

/-- A token that ends before the next character comes in front of all others. -/
theorem scanFrom_after {mode : Mode} (hfinish : finish mode = some [token])
    (hstep : ∀ c ∈ rest.head?, step mode c = stepAfter (some token) c) :
  scanFrom mode rest = (scanFrom .between rest).map ([token] ++ ·)
  := by
  cases rest with
  | nil =>
      rw [scanFrom, hfinish]
      rfl
  | cons c rest =>
      rw [scanFrom, hstep c rfl, scanFrom, step]
      unfold stepAfter
      rcases stepBetween c with _ | ⟨mode', tokens⟩
      · rfl
      · simp only [Option.map_map]
        rfl

theorem scanFrom_word {read : List Char} (hword : Token.ofWord? read.reverse = some token)
    (hrest : Delimits rest) :
  scanFrom (.word read) rest = (scanFrom .between rest).map ([token] ++ ·)
  := by
  apply scanFrom_after
  · rw [finish, hword]
    rfl
  · intro c hc
    rw [step, (hrest c hc).1, hword]
    rfl

theorem scanFrom_number {read : List Char} (hnumber : Token.ofNumber? read.reverse = some token)
    (hrest : Delimits rest) :
  scanFrom (.number read) rest = (scanFrom .between rest).map ([token] ++ ·)
  := by
  apply scanFrom_after
  · rw [finish, hnumber]
    rfl
  · intro c hc
    rw [step, (hrest c hc).2, hnumber]
    rfl

/-- A punctuation mark is a token of its own. -/
theorem scanFrom_mark (c : Char) (token : Token) (h : stepBetween c = some (.between, [token])) :
  scanFrom .between (c :: rest) = (scanFrom .between rest).map ([token] ++ ·)
  := by
  rw [scanFrom, step, h]

end

/-- Space between two tokens is passed over. -/
theorem scanFrom_newline (depth : Nat) (rest : List Char) :
  scanFrom .between (newline depth ++ rest) = scanFrom .between rest
  := by
  rw [newline, List.cons_append, scanFrom_within rfl]
  induction 2 * depth with
  | zero => rfl
  | succ count ih => rw [List.replicate_succ, List.cons_append, scanFrom_within rfl, ih]

/-- Letters are read one after another. -/
theorem scanFrom_letters {letters : List Char} (h : ∀ c ∈ letters, c.isLower = true)
    (read rest : List Char) :
  scanFrom (.word read) (letters ++ rest) = scanFrom (.word (letters.reverse ++ read)) rest
  := by
  induction letters generalizing read with
  | nil => rfl
  | cons c letters ih =>
      obtain ⟨hc, hletters⟩ := List.forall_mem_cons.mp h
      have hstep : step (.word read) c = some (.word (c :: read), []) := by
        simp [step, hc]
      rw [List.cons_append, scanFrom_within hstep, ih hletters, List.reverse_cons,
        List.append_assoc, List.singleton_append]

theorem scan_word {first : Char} {letters rest : List Char} {token : Token}
    (hfirst : step .between first = some (.word [first], []))
    (hletters : letters.all Char.isLower = true)
    (hword : Token.ofWord? (first :: letters) = some token) (hrest : Delimits rest) :
  scanFrom .between (first :: letters ++ rest) = (scanFrom .between rest).map ([token] ++ ·)
  := by
  rw [List.cons_append, scanFrom_within hfirst,
    scanFrom_letters (List.all_eq_true.mp hletters)]
  apply scanFrom_word _ hrest
  rw [List.reverse_append, List.reverse_reverse, List.reverse_singleton, List.singleton_append,
    hword]

/-- Digits are read one after another. -/
theorem scanFrom_digits {digits : List Char} (h : ∀ c ∈ digits, c.isDigit = true)
    (read rest : List Char) :
  scanFrom (.number read) (digits ++ rest) = scanFrom (.number (digits.reverse ++ read)) rest
  := by
  induction digits generalizing read with
  | nil => rfl
  | cons c digits ih =>
      obtain ⟨hc, hdigits⟩ := List.forall_mem_cons.mp h
      have hstep : step (.number read) c = some (.number (c :: read), []) := by
        simp [step, isNumeric, hc]
      rw [List.cons_append, scanFrom_within hstep, ih hdigits, List.reverse_cons,
        List.append_assoc, List.singleton_append]

/-- The digits of a number are a number. -/
theorem ofNumber?_toDigits (value : Nat) :
  Token.ofNumber? (Nat.toDigits 10 value) = some (.natural value)
  := by
  have hdigit : ∀ c ∈ Nat.toDigits 10 value, c.isDigit = true :=
    fun c => Text.isDigit_of_mem_toDigits
  have hunsigned : Token.unsigned (Nat.toDigits 10 value) = Nat.toDigits 10 value := by
    unfold Token.unsigned
    split
    · rename_i rest hminus
      have hdigit' := hdigit '-' (by rw [hminus]; exact List.mem_cons_self)
      cases hdigit'
    · rfl
  have hwhole : Token.isWhole (Nat.toDigits 10 value) = true := by
    unfold Token.isWhole
    split
    · rename_i hnil
      exact absurd hnil Nat.toDigits_ne_nil
    · rename_i rest hzero
      rw [Text.zero_toDigits hzero]
      rfl
    · rfl
  have hfront : (Nat.toDigits 10 value).takeWhile Char.isDigit = Nat.toDigits 10 value :=
    List.takeWhile_eq_self_iff.mpr hdigit
  have hback : (Nat.toDigits 10 value).dropWhile Char.isDigit = [] :=
    List.dropWhile_eq_nil_iff.mpr hdigit
  rw [Token.ofNumber?, hunsigned, hfront, hback, hwhole, List.all_eq_true.mpr hdigit,
    Text.decimal_toDigits]
  rfl

theorem scan_natural (value : Nat) {rest : List Char} (hrest : Delimits rest) :
  scanFrom .between ((Nat.repr value).toList ++ rest)
    = (scanFrom .between rest).map ([.natural value] ++ ·)
  := by
  have hnumber := ofNumber?_toDigits value
  rw [Nat.toList_repr]
  cases hdigits : Nat.toDigits 10 value with
  | nil => exact absurd hdigits Nat.toDigits_ne_nil
  | cons c digits =>
      rw [hdigits] at hnumber
      have hdigit : ∀ d ∈ c :: digits, d.isDigit = true := by
        rw [← hdigits]
        exact fun d => Text.isDigit_of_mem_toDigits
      obtain ⟨hc, hrest'⟩ := List.forall_mem_cons.mp hdigit
      have hother : ∀ d, d.isDigit = false → c ≠ d := by
        rintro d hd rfl
        cases hc.symm.trans hd
      have hfirst : step .between c = some (.number [c], []) := by
        simp [step, stepBetween, isSpace, hc, hother ' ' rfl, hother '\n' rfl, hother '\t' rfl,
          hother '\r' rfl, hother '\"' rfl]
      rw [List.cons_append, scanFrom_within hfirst, scanFrom_digits hrest']
      apply scanFrom_number _ hrest
      rw [List.reverse_append, List.reverse_reverse, List.reverse_singleton,
        List.singleton_append, hnumber]

/-! ## Scanning strings -/

section

variable {read : List Nat} {rest : List Char}

theorem step_backslash (read : List Nat) :
  step (.string read) '\\' = some (.escape read, [])
  := rfl

theorem scanFrom_digit {left value digit : Nat} (h : digit < 16) :
  scanFrom (.point read (left + 1) value) (Hex.digit digit :: rest)
    = scanFrom (.point read left (16 * value + digit)) rest
  := by
  apply scanFrom_within
  simp [step, Hex.value?_digit h]

theorem scanFrom_last_digit {value digit : Nat} (h : digit < 16) :
  scanFrom (.point read 0 value) (Hex.digit digit :: rest)
    = scanFrom (.string ((16 * value + digit) :: read)) rest
  := by
  apply scanFrom_within
  simp [step, Hex.value?_digit h]

/-- Four digits behind a backslash are read as the code point that they denote. -/
theorem scanFrom_point {point : Nat} (h : point < 0x10000) :
  scanFrom (.string read) ('\\' :: 'u' :: (Hex.digits Hex.digit 4 point ++ rest))
    = scanFrom (.string (point :: read)) rest
  := by
  have hpoint : 16 * (16 * (16 * (16 * 0 + point / 16 / 16 / 16 % 16) + point / 16 / 16 % 16)
      + point / 16 % 16) + point % 16 = point := by
    omega
  have hletter : step (.escape read) 'u' = some (.point read 3 0, []) := rfl
  rw [scanFrom_within (step_backslash read), scanFrom_within hletter]
  change scanFrom (.point read 3 0) (Hex.digit (point / 16 / 16 / 16 % 16)
    :: Hex.digit (point / 16 / 16 % 16) :: Hex.digit (point / 16 % 16) :: Hex.digit (point % 16)
    :: rest) = _
  rw [scanFrom_digit (Nat.mod_lt _ (by decide)), scanFrom_digit (Nat.mod_lt _ (by decide)),
    scanFrom_digit (Nat.mod_lt _ (by decide)), scanFrom_last_digit (Nat.mod_lt _ (by decide)),
    hpoint]

/-- A letter behind a backslash is read as the code point that it stands for. -/
theorem scanFrom_escape {letter : Char} {point : Nat} (hletter : letter ≠ 'u')
    (h : Token.ofEscape? letter = some point) :
  scanFrom (.string read) ('\\' :: letter :: rest) = scanFrom (.string (point :: read)) rest
  := by
  have hstep : step (.escape read) letter = some (.string (point :: read), []) := by
    simp [step, hletter, h]
  rw [scanFrom_within (step_backslash read), scanFrom_within hstep]

/-- A character of a string is read as its code point. -/
theorem scanFrom_writeChar (c : Char) :
  scanFrom (.string read) (writeChar c ++ rest) = scanFrom (.string (c.toNat :: read)) rest
  := by
  unfold writeChar
  split_ifs with hquote hslash hback htab hline hfeed hreturn hcontrol
  · rw [hquote]
    exact scanFrom_escape (by decide) rfl
  · rw [hslash]
    exact scanFrom_escape (by decide) rfl
  · rw [hback]
    exact scanFrom_escape (by decide) rfl
  · rw [htab]
    exact scanFrom_escape (by decide) rfl
  · rw [hline]
    exact scanFrom_escape (by decide) rfl
  · rw [hfeed]
    exact scanFrom_escape (by decide) rfl
  · rw [hreturn]
    exact scanFrom_escape (by decide) rfl
  · rw [List.append_assoc]
    exact scanFrom_point (by omega)
  · apply scanFrom_within
    simp [step, hquote, hslash, hcontrol]

theorem scanFrom_writeChars (cs : List Char) :
  scanFrom (.string read) (cs.flatMap writeChar ++ '\"' :: rest)
    = (scanFrom .between rest).map ([Token.ofPoints (read.reverse ++ cs.map Char.toNat)] ++ ·)
  := by
  induction cs generalizing read with
  | nil =>
      rw [List.flatMap_nil, List.nil_append, List.map_nil, List.append_nil]
      rfl
  | cons c cs ih =>
      rw [List.flatMap_cons, List.append_assoc, scanFrom_writeChar, ih, List.reverse_cons,
        List.append_assoc, List.singleton_append, List.map_cons]

end

/-- No character is a part of a surrogate pair. -/
theorem assemble_toNat (cs : List Char) :
  Token.assemble (cs.map Char.toNat) = some cs
  := by
  induction cs with
  | nil => rfl
  | cons c cs ih =>
      have hvalid := Utf8.toNat_char c
      have hhigh : Token.isHigh c.toNat = false := by
        simp [Token.isHigh]
        omega
      have hlow : Token.isLow c.toNat = false := by
        simp [Token.isLow]
        omega
      rw [List.map_cons, Token.assemble.eq_def]
      simp only [hhigh, hlow, ih, Bool.false_eq_true, if_false, Option.map_some,
        Char.ofNat_toNat]

theorem scan_string (text : Option String) (rest : List Char) :
  scanFrom .between (writeString text ++ rest)
    = (scanFrom .between rest).map ([.string text] ++ ·)
  := by
  have hquote : step .between '\"' = some (.string [], []) := rfl
  cases text with
  | none =>
      change scanFrom .between ('\"' :: '\\' :: 'u'
        :: (Hex.digits Hex.digit 4 0xD800 ++ '\"' :: rest)) = _
      rw [scanFrom_within hquote, scanFrom_point (by decide)]
      exact scanFrom_writeChars []
  | some text =>
      rw [writeString, List.append_assoc, List.append_assoc, List.singleton_append,
        scanFrom_within hquote, List.singleton_append, scanFrom_writeChars, Token.ofPoints,
        List.reverse_nil, List.nil_append, assemble_toNat, Option.map_some, String.ofList_toList]

/-! ## Scanning values -/

/-- Tokens that come in front of others together come in front of them one after another. -/
theorem map_append (first second : List Token) (scanned : Option (List Token)) :
  (scanned.map (second ++ ·)).map (first ++ ·) = scanned.map (first ++ second ++ ·)
  := by
  rw [Option.map_map]
  apply congrArg (Option.map · scanned)
  funext tokens
  exact (List.append_assoc _ _ _).symm

theorem delimits_writeItems (depth : Nat) (items : List Json) (depth' : Nat) (rest : List Char) :
  Delimits (writeItems depth items ++ (newline depth' ++ rest))
  := by
  cases items with
  | nil => exact delimits_newline depth' rest
  | cons item items =>
      rw [writeItems]
      exact delimits_comma _

theorem delimits_writeMembers (depth : Nat) (members : List (Option String × Json))
    (depth' : Nat) (rest : List Char) :
  Delimits (writeMembers depth members ++ (newline depth' ++ rest))
  := by
  cases members with
  | nil => exact delimits_newline depth' rest
  | cons member members =>
      rw [writeMembers]
      exact delimits_comma _

/-- The text of a member is split into its tokens if that of its value is. -/
theorem scan_writeMember {depth : Nat} {value : Json} (name : Option String) {rest : List Char}
    (hvalue : scanFrom .between (write depth value ++ rest)
      = (scanFrom .between rest).map (tokens value ++ ·)) :
  scanFrom .between (writeMember depth (name, value) ++ rest)
    = (scanFrom .between rest).map (memberTokens (name, value) ++ ·)
  := by
  have hspace : step .between ' ' = some (.between, []) := rfl
  rw [writeMember, List.append_assoc, List.append_assoc, scan_string, List.cons_append,
    scanFrom_mark ':' .colon rfl, List.singleton_append, scanFrom_within hspace, hvalue,
    map_append, map_append]
  rfl

mutual

/-- The text of a value is split into its tokens. -/
theorem scan_write (depth : Nat) (value : Json) (hplain : value.IsPlain) {rest : List Char}
    (hrest : Delimits rest) :
  scanFrom .between (write depth value ++ rest)
    = (scanFrom .between rest).map (tokens value ++ ·)
  := by
  match value with
  | .null => exact scan_word rfl rfl rfl hrest
  | .bool true => exact scan_word rfl rfl rfl hrest
  | .bool false => exact scan_word rfl rfl rfl hrest
  | .natural value => exact scan_natural value hrest
  | .decimal written => exact absurd hplain id
  | .string text => exact scan_string text rest
  | .array [] =>
      rw [write, List.cons_append, List.singleton_append, scanFrom_mark '[' .openBracket rfl,
        scanFrom_mark ']' .closeBracket rfl, map_append]
      rfl
  | .array (item :: items) =>
      obtain ⟨hitem, hitems⟩ := hplain
      rw [write]
      simp only [List.append_assoc, List.cons_append, List.nil_append]
      rw [scanFrom_mark '[' .openBracket rfl, scanFrom_newline,
        scan_write (depth + 1) item hitem (delimits_writeItems _ _ _ _),
        scan_writeItems (depth + 1) items hitems (delimits_newline _ _), scanFrom_newline,
        scanFrom_mark ']' .closeBracket rfl, map_append, map_append, map_append, tokens]
      simp only [List.append_assoc, List.cons_append, List.nil_append]
  | .object [] =>
      rw [write, List.cons_append, List.singleton_append, scanFrom_mark '\x7b' .openBrace rfl,
        scanFrom_mark '\x7d' .closeBrace rfl, map_append]
      rfl
  | .object ((name, value) :: members) =>
      obtain ⟨hvalue, hmembers⟩ := hplain
      rw [write]
      simp only [List.append_assoc, List.cons_append, List.nil_append]
      rw [scanFrom_mark '\x7b' .openBrace rfl, scanFrom_newline,
        scan_writeMember name
          (scan_write (depth + 1) value hvalue (delimits_writeMembers _ _ _ _)),
        scan_writeMembers (depth + 1) members hmembers (delimits_newline _ _), scanFrom_newline,
        scanFrom_mark '\x7d' .closeBrace rfl, map_append, map_append, map_append, tokens]
      simp only [List.append_assoc, List.cons_append, List.nil_append]

/-- The text of further items is split into their tokens. -/
theorem scan_writeItems (depth : Nat) (items : List Json) (hplain : ArePlain items)
    {rest : List Char} (hrest : Delimits rest) :
  scanFrom .between (writeItems depth items ++ rest)
    = (scanFrom .between rest).map (itemsTokens items ++ ·)
  := by
  match items with
  | [] => exact Option.map_id'.symm
  | item :: items =>
      obtain ⟨hitem, hitems⟩ := hplain
      have hnext : Delimits (writeItems depth items ++ rest) := by
        cases items with
        | nil => exact hrest
        | cons => exact delimits_comma _
      rw [writeItems]
      simp only [List.append_assoc, List.cons_append, List.nil_append]
      rw [scanFrom_mark ',' .comma rfl, scanFrom_newline, scan_write depth item hitem hnext,
        scan_writeItems depth items hitems hrest, map_append, map_append, itemsTokens]
      rfl

/-- The text of further members is split into their tokens. -/
theorem scan_writeMembers (depth : Nat) (members : List (Option String × Json))
    (hplain : MembersArePlain members) {rest : List Char} (hrest : Delimits rest) :
  scanFrom .between (writeMembers depth members ++ rest)
    = (scanFrom .between rest).map (membersTokens members ++ ·)
  := by
  match members with
  | [] => exact Option.map_id'.symm
  | (name, value) :: members =>
      obtain ⟨hvalue, hmembers⟩ := hplain
      have hnext : Delimits (writeMembers depth members ++ rest) := by
        cases members with
        | nil => exact hrest
        | cons => exact delimits_comma _
      rw [writeMembers]
      simp only [List.append_assoc, List.cons_append, List.nil_append]
      rw [scanFrom_mark ',' .comma rfl, scanFrom_newline,
        scan_writeMember name (scan_write depth value hvalue hnext),
        scan_writeMembers depth members hmembers hrest, map_append, map_append, membersTokens]
      rfl

end

/-! ## Reading values -/

/-- A value does not begin with a closing bracket. -/
theorem tokens_head (value : Json) :
  ∃ token rest, tokens value = token :: rest ∧ token ≠ .closeBracket
  := by
  match value with
  | .null => exact ⟨_, _, rfl, nofun⟩
  | .bool value => exact ⟨_, _, rfl, nofun⟩
  | .natural value => exact ⟨_, _, rfl, nofun⟩
  | .decimal written => exact ⟨_, _, rfl, nofun⟩
  | .string text => exact ⟨_, _, rfl, nofun⟩
  | .array [] => exact ⟨_, _, rfl, nofun⟩
  | .array (item :: items) => exact ⟨.openBracket, _, by rw [tokens], nofun⟩
  | .object [] => exact ⟨_, _, rfl, nofun⟩
  | .object (member :: members) => exact ⟨.openBrace, _, by rw [tokens], nofun⟩

/-- Calls that go as deep as `bound` read the tokens of small values, of few items up to the
closing bracket, and of few members up to the closing brace. -/
structure Reads (bound : Nat) : Prop where
  value : ∀ value rest, 2 * (tokens value).length ≤ bound →
    readValue bound (tokens value ++ rest) = some (value, rest)
  items : ∀ item items rest, 2 * ((tokens item).length + (itemsTokens items).length + 1) ≤ bound →
    readItems bound (tokens item ++ itemsTokens items ++ .closeBracket :: rest)
      = some (item :: items, rest)
  members : ∀ member members rest,
    2 * ((memberTokens member).length + (membersTokens members).length + 1) ≤ bound →
    readMembers bound (memberTokens member ++ membersTokens members ++ .closeBrace :: rest)
      = some (member :: members, rest)

section

variable {bound : Nat} (h : Reads bound)

include h

theorem Reads.readValue_succ {value : Json} (rest : List Token)
    (hbound : 2 * (tokens value).length ≤ bound + 1) :
  readValue (bound + 1) (tokens value ++ rest) = some (value, rest)
  := by
  match value with
  | .null => rfl
  | .bool value => rfl
  | .natural value => rfl
  | .decimal written => rfl
  | .string text => rfl
  | .array [] => rfl
  | .array (item :: items) =>
      rw [tokens] at hbound ⊢
      simp only [List.length_cons, List.length_append, List.length_nil] at hbound
      have hitems := h.items item items rest (by omega)
      obtain ⟨first, back, hfirst, hclose⟩ := tokens_head item
      simp only [List.append_assoc, List.cons_append, List.nil_append, hfirst] at hitems ⊢
      rw [readValue]
      · rw [hitems]
      · rintro _ ⟨⟩
        exact hclose rfl
  | .object [] => rfl
  | .object ((name, value) :: members) =>
      rw [tokens] at hbound ⊢
      simp only [List.length_cons, List.length_append, List.length_nil] at hbound
      have hmembers := h.members (name, value) members rest (by omega)
      simp only [List.append_assoc, List.cons_append, List.nil_append, memberTokens]
        at hmembers ⊢
      rw [readValue]
      · rw [hmembers]
      · nofun

theorem Reads.readItems_succ {item : Json} {items : List Json} (rest : List Token)
    (hbound : 2 * ((tokens item).length + (itemsTokens items).length + 1) ≤ bound + 1) :
  readItems (bound + 1) (tokens item ++ itemsTokens items ++ .closeBracket :: rest)
    = some (item :: items, rest)
  := by
  rw [readItems, List.append_assoc, h.value item _ (by omega)]
  cases items with
  | nil => rfl
  | cons next items =>
      rw [itemsTokens, List.length_cons, List.length_append] at hbound
      rw [itemsTokens, List.cons_append]
      simp only
      rw [h.items next items rest (by omega)]

theorem Reads.readMembers_succ {member : Option String × Json}
    {members : List (Option String × Json)} (rest : List Token)
    (hbound : 2 * ((memberTokens member).length + (membersTokens members).length + 1) ≤ bound + 1) :
  readMembers (bound + 1) (memberTokens member ++ membersTokens members ++ .closeBrace :: rest)
    = some (member :: members, rest)
  := by
  obtain ⟨name, value⟩ := member
  rw [memberTokens, List.length_cons, List.length_cons] at hbound
  rw [memberTokens, List.append_assoc, List.cons_append, List.cons_append, readMembers,
    h.value value _ (by omega)]
  cases members with
  | nil => rfl
  | cons next members =>
      rw [membersTokens, List.length_cons, List.length_append] at hbound
      rw [membersTokens, List.cons_append]
      simp only
      rw [h.members next members rest (by omega)]

end

theorem reads (bound : Nat) :
  Reads bound
  := by
  induction bound with
  | zero =>
      constructor
      · intro value rest h
        obtain ⟨token, front, hfront, -⟩ := tokens_head value
        rw [hfront, List.length_cons] at h
        omega
      · intros
        omega
      · intros
        omega
  | succ bound ih =>
      constructor
      · exact fun value rest => ih.readValue_succ rest
      · exact fun item items rest => ih.readItems_succ rest
      · exact fun member members rest => ih.readMembers_succ rest

/-- A value without numbers that are kept as they are written is read back from its text. -/
theorem read?_pretty {value : Json} (hplain : value.IsPlain) :
  read? value.pretty = some value
  := by
  have hscan := scan_write 0 value hplain delimits_nil
  have hread := (reads _).value value [] (Nat.le_succ (2 * (tokens value).length))
  rw [List.append_nil] at hscan hread
  rw [read?, pretty, String.toList_ofList, scan, hscan, scanFrom, finish, Option.map_some,
    Option.bind_some, List.append_nil, ofTokens?, hread]

end CxlFirmware.Json
