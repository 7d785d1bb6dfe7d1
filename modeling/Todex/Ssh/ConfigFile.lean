import Todex.Conversation.Model
import Todex.Lib.Ensures
import Todex.Lib.Json.Number
import Todex.Text

/-!
# Managed ssh hosts

The hosts that the daemon manages are rendered into an ssh configuration of their own, one setting a line.
The daemon also reads such lines. A host is normalized before it is kept, so that no field can break out of
its line.
-/

namespace Todex

/-! ### Reading a line -/

/-- The loop over the characters of a line behind its keyword. -/
def parseArgs (args : List (List Char)) (current : List Char) (inQuotes hasToken : Bool) :
    List Char → List (List Char)
  | [] => if hasToken then args ++ [current] else args
  | c :: rest =>
    if c = '"' then parseArgs args current (!inQuotes) true rest
    else if isWhitespace c ∧ ¬ inQuotes then
      if hasToken then parseArgs (args ++ [current]) [] inQuotes false rest
      else parseArgs args current inQuotes hasToken rest
    else if c = '#' ∧ ¬ inQuotes ∧ ¬ hasToken then args
    else parseArgs args (current ++ [c]) inQuotes true rest

/-- The arguments behind a keyword, which an equals sign may precede. -/
def argsOf (rest : List Char) : List (List Char) :=
  match rest.dropWhile isWhitespace with
  | '=' :: rest => parseArgs [] [] false false (rest.dropWhile isWhitespace)
  | rest => parseArgs [] [] false false rest

/-- A keyword ends here. -/
def endsKeyword (c : Char) : Bool := isWhitespace c ∨ c = '='

/-- `parse_line`. -/
def parseLine (line : String) : Option (String × List String) :=
  let line := trimChars line.toList
  if line = [] ∨ line.head? = some '#' then none
  else if line.any endsKeyword then
    some (String.ofList ((line.takeWhile (! endsKeyword ·)).map Char.toLower),
      (argsOf (line.dropWhile (! endsKeyword ·))).map String.ofList)
  else none

/-! ### Managed hosts -/

structure SshOption where
  key : String
  value : String
deriving DecidableEq

inductive SshAuthMethod
  | key
  | password
deriving DecidableEq

structure ManagedHost where
  aliasName : String
  hostName : String
  user : Option String
  port : Option UInt16
  identityFile : Option String
  proxyJump : Option String
  options : List SshOption
  authMethod : SshAuthMethod
deriving DecidableEq

/-- `MAX_ALIAS_LEN`. -/
def maxAliasLen : Nat := 64

/-- `MAX_VALUE_LEN`. -/
def maxValueLen : Nat := 1024

/-- `FORBIDDEN_OPTIONS`. -/
def forbiddenOptions : List String :=
  ["host", "match", "include", "localcommand", "permitlocalcommand", "knownhostscommand"]

/-- `DEDICATED_OPTIONS`. -/
def dedicatedOptions : List String := ["hostname", "user", "port", "identityfile", "proxyjump"]

def isAliasChar (c : Char) : Bool := c.isAlphanum ∨ c ∈ ['.', '_', '-', '@', ':']

/-- `valid_alias`. -/
def validAlias (name : String) : Bool :=
  name ≠ "" ∧ name.utf8ByteSize ≤ maxAliasLen ∧ name.toList.head? ≠ some '-' ∧
    ∀ c ∈ name.toList, isAliasChar c

def isTokenChar (c : Char) : Bool := ¬ (isWhitespace c ∨ isControl c ∨ c = '"')

/-- `validate_token`. -/
def validateToken (field value : String) (max : Nat) : Except AppError Unit := do
  .require (value ≠ "" ∧ value.utf8ByteSize ≤ max) (.invalidRequest s!"{field} must be 1-{max} characters")
  .require (value.toList.head? ≠ some '-') (.invalidRequest (field ++ " must not start with '-'"))
  .require (∀ c ∈ value.toList, isTokenChar c)
    (.invalidRequest s!"{field} must not contain whitespace, quotes or control characters")

def isValueChar (c : Char) : Bool := ¬ (isControl c ∨ c = '"')

/-- `validate_value`. -/
def validateValue (field value : String) : Except AppError Unit := do
  .require (trim value ≠ "" ∧ value.utf8ByteSize ≤ maxValueLen)
    (.invalidRequest s!"{field} must be 1-{maxValueLen} characters")
  .require (∀ c ∈ value.toList, isValueChar c)
    (.invalidRequest s!"{field} must not contain quotes or control characters")

/-- `to_ascii_lowercase`. -/
def toAsciiLowercase (text : String) : String := String.ofList (text.toList.map Char.toLower)

/-- One of the extra options, in `normalized`. -/
def SshOption.normalized (self : SshOption) : Except AppError SshOption := do
  let option : SshOption := { key := trim self.key, value := trim self.value }
  .require (option.key ≠ "" ∧ option.key.utf8ByteSize ≤ 64 ∧ ∀ c ∈ option.key.toList, c.isAlphanum)
    (.invalidRequest ("invalid option name: " ++ option.key))
  .require (toAsciiLowercase option.key ∉ forbiddenOptions)
    (.invalidRequest ("option " ++ option.key ++ " is not allowed"))
  .require (toAsciiLowercase option.key ∉ dedicatedOptions)
    (.invalidRequest ("option " ++ option.key ++ " has a dedicated field"))
  validateValue option.key option.value
  return option

/-- An optional field is checked when it is there. -/
def checkField (value : Option String) (check : String → Except AppError Unit) : Except AppError Unit :=
  match value with
  | none => .ok ()
  | some value => check value

namespace ManagedHost

/-- The fields that `normalized` trims. -/
def trimmed (self : ManagedHost) : ManagedHost :=
  { self with
    aliasName := trim self.aliasName
    hostName := trim self.hostName
    user := trimField self.user
    identityFile :=
      match self.authMethod with
      | .key => trimField self.identityFile
      | .password => none
    proxyJump := trimField self.proxyJump }

/-- `ManagedHost::normalized`. -/
def normalized (self : ManagedHost) : Except AppError ManagedHost := do
  let host := self.trimmed
  .require (validAlias host.aliasName) (.invalidRequest ("alias must be 1-64 characters of letters, digits, " ++
    "'.', '_', '-', '@' or ':' and not start with '-'"))
  validateToken "hostName" host.hostName 255
  checkField host.user (validateToken "user" · 64)
  .require (host.port ≠ some 0) (.invalidRequest "port must be 1-65535")
  checkField host.identityFile (validateValue "identityFile" ·)
  checkField host.proxyJump (validateToken "proxyJump" · 512)
  .require (host.options.length ≤ 32) (.invalidRequest "at most 32 extra options are allowed")
  let options ← host.options.mapM SshOption.normalized
  return { host with options }

/-! ### Rendering -/

/-- The lines that `ManagedHost::render` puts out. -/
def renderLines (self : ManagedHost) : List String :=
  ["Host " ++ self.aliasName] ++
  ["  HostName " ++ self.hostName] ++
  self.user.toList.map ("  User " ++ ·) ++
  self.port.toList.map (fun port => "  Port " ++ toString port.toNat) ++
  self.identityFile.toList.map (fun identityFile => "  IdentityFile \"" ++ identityFile ++ "\"") ++
  (if self.authMethod = .password then
    ["  PreferredAuthentications keyboard-interactive,password", "  PubkeyAuthentication no"]
  else []) ++
  self.proxyJump.toList.map ("  ProxyJump " ++ ·) ++
  self.options.map (fun option => "  " ++ option.key ++ " \"" ++ option.value ++ "\"")

end ManagedHost

/-- The lines of `render_managed_hosts`. -/
def managedLines (hosts : List ManagedHost) : List String :=
  "# Generated by TodeX from its SSH host list. Manual edits are overwritten." ::
    hosts.flatMap fun host => "" :: host.renderLines

/-- `render_managed_hosts`: each line is put out with its newline. -/
def renderManagedHosts (hosts : List ManagedHost) : String :=
  String.join ((managedLines hosts).map (· ++ "\n"))

/-! ### What a line is read as -/

/-- A word that stands for itself in a line. -/
def TokenChars (chars : List Char) : Prop := ∀ c ∈ chars, isWhitespace c = false ∧ c ≠ '"'

lemma parseArgs_token (h : TokenChars t) (a : List (List Char))
    (cu : List Char) : parseArgs a cu false true t = a ++ [cu ++ t] := by
  induction t generalizing cu with
  | nil => simp [parseArgs]
  | cons c t ih =>
    obtain ⟨hs, hq⟩ := h c List.mem_cons_self
    rw [parseArgs, if_neg hq, if_neg (by simp [hs]), if_neg (by simp), ih fun d hd => h d (List.mem_cons_of_mem c hd)]
    simp

lemma parseArgs_quoted (h : '"' ∉ value) (a : List (List Char))
    (cu : List Char) : parseArgs a cu true true (value ++ ['"']) = a ++ [cu ++ value] := by
  induction value generalizing cu with
  | nil => simp [parseArgs]
  | cons c value ih =>
    have hq : c ≠ '"' := fun hc => h (by simp [hc])
    rw [List.cons_append, parseArgs, if_neg hq, if_neg (by simp), if_neg (by simp), ih fun hm => h (by simp [hm])]
    simp

/-- A word at the beginning of the arguments is one of them, unless it is a comment. -/
lemma parseArgs_word (h : TokenChars t) :
    parseArgs [] [] false false t = if t = [] ∨ t.head? = some '#' then [] else [t] := by
  cases t with
  | nil => simp [parseArgs]
  | cons c t =>
    obtain ⟨hspace, hquote⟩ := h c List.mem_cons_self
    rw [parseArgs, if_neg hquote, if_neg (by simp [hspace]), parseArgs_token fun d hd => h d (List.mem_cons_of_mem c hd)]
    simp

/-- A word is the one argument of its line, unless it looks like a comment or an equals sign. -/
lemma argsOf_word_iff (h : TokenChars t) (hne : t ≠ []) :
    argsOf (' ' :: t) = [t] ↔ t.head? ≠ some '#' ∧ t.head? ≠ some '=' := by
  have hdrop {word : List Char} (hword : TokenChars word) : word.dropWhile isWhitespace = word := by
    cases word with
    | nil => rfl
    | cons c word => rw [List.dropWhile_cons_of_neg (by simp [(hword c List.mem_cons_self).1])]
  rw [argsOf, List.dropWhile_cons_of_pos (by decide), hdrop h]
  split
  case h_1 rest =>
    -- the equals sign is stripped, and the argument is shorter than the word
    have hrest : TokenChars rest := fun d hd => h d (List.mem_cons_of_mem _ hd)
    rw [hdrop hrest, parseArgs_word hrest]
    split_ifs <;> simp
  case h_2 heq =>
    have hequals : t.head? ≠ some '=' := by
      intro hhead
      obtain ⟨rest, rfl⟩ := List.head?_eq_some_iff.1 hhead
      exact heq rest rfl
    rw [parseArgs_word h]
    simp [hne, hequals]

lemma argsOf_quoted (h : '"' ∉ value) : argsOf (' ' :: '"' :: (value ++ ['"'])) = [value] := by
  have hd : (' ' :: '"' :: (value ++ ['"'])).dropWhile isWhitespace = '"' :: (value ++ ['"']) := by
    rw [List.dropWhile_cons_of_pos (by decide), List.dropWhile_cons_of_neg (by decide)]
  rw [argsOf, hd]
  split
  case h_1 heq => simp at heq
  case h_2 => rw [parseArgs, if_pos rfl, Bool.not_false, parseArgs_quoted h, List.nil_append, List.nil_append]

/-- Neither white space nor a character that means something in a line. -/
structure PlainChar (c : Char) : Prop where
  space : isWhitespace c = false
  control : isControl c = false
  quote : c ≠ '"'
  comment : c ≠ '#'
  equals : c ≠ '='

variable {c : Char}

lemma plainChar_of_isAlphanum (h : c.isAlphanum) : PlainChar c := by
  have hr : (48 ≤ c.toNat ∧ c.toNat ≤ 57) ∨ (65 ≤ c.toNat ∧ c.toNat ≤ 90) ∨
      (97 ≤ c.toNat ∧ c.toNat ≤ 122) := by
    simp only [Char.isAlphanum, Char.isAlpha, Char.isUpper, Char.isLower, Char.isDigit,
      UInt32.le_iff_toNat_le, Bool.or_eq_true, decide_eq_true_eq, ge_iff_le, Char.toNat_val] at h
    simp at h
    omega
  constructor
  · simp only [isWhitespace, List.mem_cons, List.not_mem_nil, or_false, decide_eq_false_iff_not]
    omega
  · simp only [isControl, decide_eq_false_iff_not]
    omega
  all_goals
    rintro rfl
    revert hr
    decide

lemma plainChar_of_isAliasChar (h : isAliasChar c) : PlainChar c := by
  simp only [isAliasChar, List.mem_cons, List.not_mem_nil, or_false, Bool.decide_or, Bool.or_eq_true,
    decide_eq_true_eq] at h
  rcases h with h | rfl | rfl | rfl | rfl | rfl
  · exact plainChar_of_isAlphanum (by simpa using h)
  all_goals constructor <;> decide

/-- The letters of a keyword. -/
structure KeywordChars (keyword : List Char) : Prop where
  ne_nil : keyword ≠ []
  letters : ∀ c ∈ keyword, PlainChar c

/-- A line with a keyword has what stands behind it as its arguments. -/
lemma parseLine_keyword (hindent : ∀ c ∈ indent, isWhitespace c)
    (hkeyword : KeywordChars keyword) (hla : ∀ c ∈ rest.getLast?, isWhitespace c = false) (hne : rest ≠ []) :
    parseLine (String.ofList (indent ++ (keyword ++ ' ' :: rest))) =
      some (String.ofList (keyword.map Char.toLower), (argsOf (' ' :: rest)).map String.ofList) := by
  obtain ⟨c, l, rfl⟩ := List.exists_cons_of_ne_nil hkeyword.ne_nil
  have hc := hkeyword.letters c List.mem_cons_self
  have htr : trimChars (indent ++ (c :: l ++ ' ' :: rest)) = c :: l ++ ' ' :: rest := by
    apply trimChars_append hindent
    · simpa using hc.space
    · rw [List.getLast?_append_of_ne_nil _ (by simp), List.getLast?_cons_of_ne_nil hne]
      exact hla
  have hl : ∀ d ∈ c :: l, (! endsKeyword d) = true := by
    intro d hd
    have hd := hkeyword.letters d hd
    simp [endsKeyword, hd.space, hd.equals]
  have ht : (' ' :: rest).takeWhile (! endsKeyword ·) = [] := List.takeWhile_cons_of_neg (by decide)
  have hdr : (' ' :: rest).dropWhile (! endsKeyword ·) = ' ' :: rest :=
    List.dropWhile_cons_of_neg (by decide)
  have hli : ¬ (c :: l ++ ' ' :: rest = [] ∨ (c :: l ++ ' ' :: rest).head? = some '#') := by
    simpa using hc.comment
  have ha : (c :: l ++ ' ' :: rest).any endsKeyword = true := by
    rw [List.any_eq_true]
    exact ⟨' ', by simp, by decide⟩
  rw [parseLine, String.toList_ofList, htr]
  simp only [if_neg hli, if_pos ha]
  rw [List.takeWhile_append_of_pos hl, ht, List.dropWhile_append_of_pos hl, hdr, List.append_nil]

/-! ### What a host is normalized to -/

/-- A field that stands in its line as it is. -/
structure TokenOk (value : String) : Prop where
  ne : value ≠ ""
  chars : ∀ c ∈ value.toList, isTokenChar c

/-- A field that stands in quotes. -/
def ValueOk (value : String) : Prop := ∀ c ∈ value.toList, isValueChar c

structure OptionOk (option : SshOption) : Prop where
  ne : option.key ≠ ""
  key : ∀ c ∈ option.key.toList, c.isAlphanum
  value : ValueOk option.value

/-- What `normalized` ensures of the fields. -/
structure HostOk (host : ManagedHost) : Prop where
  aliasName : validAlias host.aliasName
  hostName : TokenOk host.hostName
  user : ∀ user ∈ host.user, TokenOk user
  identityFile : ∀ identityFile ∈ host.identityFile, ValueOk identityFile
  proxyJump : ∀ proxyJump ∈ host.proxyJump, TokenOk proxyJump
  options : ∀ option ∈ host.options, OptionOk option

variable {value : String} {u : Unit}

lemma tokenOk_of_validateToken {max : Nat} (h : validateToken field value max = .ok u) : TokenOk value := by
  simp only [validateToken, Except.require_bind_eq_ok, Except.require_eq_ok] at h
  exact ⟨h.1.1, h.2.2⟩

lemma valueOk_of_validateValue (h : validateValue field value = .ok u) : ValueOk value := by
  simp only [validateValue, Except.require_bind_eq_ok, Except.require_eq_ok] at h
  exact h.2

lemma forall_of_checkField {value : Option String} {ch : String → Except AppError Unit} {Q : String → Prop}
    (hc : ∀ text u, ch text = .ok u → Q text) (h : checkField value ch = .ok u) : ∀ text ∈ value, Q text := by
  rintro text rfl
  exact hc text u h

lemma optionOk_of_normalized {o r : SshOption} (h : o.normalized = .ok r) : OptionOk r := by
  simp only [SshOption.normalized, Except.require_bind_eq_ok] at h
  obtain ⟨⟨hne, -, hk⟩, -, -, h⟩ := h
  obtain ⟨u, hv, h⟩ := Except.bind_eq_ok.1 h
  cases h
  exact ⟨hne, hk, valueOk_of_validateValue hv⟩

variable {host : ManagedHost}

lemma hostOk_of_normalized {r : ManagedHost} (h : host.normalized = .ok r) : HostOk r := by
  rw [ManagedHost.normalized] at h
  obtain ⟨ha, h⟩ := Except.require_bind_eq_ok.1 h
  obtain ⟨_, hhn, h⟩ := Except.bind_eq_ok.1 h
  obtain ⟨_, hu, h⟩ := Except.bind_eq_ok.1 h
  obtain ⟨-, h⟩ := Except.require_bind_eq_ok.1 h
  obtain ⟨_, hif, h⟩ := Except.bind_eq_ok.1 h
  obtain ⟨_, hpj, h⟩ := Except.bind_eq_ok.1 h
  obtain ⟨-, h⟩ := Except.require_bind_eq_ok.1 h
  obtain ⟨options, ho, h⟩ := Except.bind_eq_ok.1 h
  cases h
  exact {
    aliasName := ha
    hostName := tokenOk_of_validateToken hhn
    user := forall_of_checkField (fun _ _ => tokenOk_of_validateToken) hu
    identityFile := forall_of_checkField (fun _ _ => valueOk_of_validateValue) hif
    proxyJump := forall_of_checkField (fun _ _ => tokenOk_of_validateToken) hpj
    options := Except.forall_mem_of_mapM (fun _ _ _ => optionOk_of_normalized) ho }

/-! ### The lines of a host -/

/-- The keywords that the fields of a host stand for, each with its argument. -/
def ManagedHost.settings (self : ManagedHost) : List (String × List String) :=
  [("host", [self.aliasName])] ++
  [("hostname", [self.hostName])] ++
  self.user.toList.map (fun user => ("user", [user])) ++
  self.port.toList.map (fun port => ("port", [toString port.toNat])) ++
  self.identityFile.toList.map (fun identityFile => ("identityfile", [identityFile])) ++
  (if self.authMethod = .password then
    [("preferredauthentications", ["keyboard-interactive,password"]), ("pubkeyauthentication", ["no"])]
  else []) ++
  self.proxyJump.toList.map (fun proxyJump => ("proxyjump", [proxyJump])) ++
  self.options.map (fun option => (toAsciiLowercase option.key, [option.value]))

/-- The arguments that a line has for a word which stands in it as it is. -/
def wordArgs (value : String) : List String := (argsOf (' ' :: value.toList)).map String.ofList

/-- What the lines of a host are read as. -/
def ManagedHost.readings (self : ManagedHost) : List (String × List String) :=
  [("host", [self.aliasName])] ++
  [("hostname", wordArgs self.hostName)] ++
  self.user.toList.map (fun user => ("user", wordArgs user)) ++
  self.port.toList.map (fun port => ("port", [toString port.toNat])) ++
  self.identityFile.toList.map (fun identityFile => ("identityfile", [identityFile])) ++
  (if self.authMethod = .password then
    [("preferredauthentications", ["keyboard-interactive,password"]), ("pubkeyauthentication", ["no"])]
  else []) ++
  self.proxyJump.toList.map (fun proxyJump => ("proxyjump", wordArgs proxyJump)) ++
  self.options.map (fun option => (toAsciiLowercase option.key, [option.value]))

/-- The line is read as a keyword with its arguments, and is one line. -/
structure ReadsAs (line : String) (setting : String × List String) : Prop where
  parse : parseLine line = some setting
  plain : ∀ c ∈ line.toList, isControl c = false

/-- The field does not look like a comment or an equals sign. -/
def StartsPlain (value : String) : Prop := value.toList.head? ≠ some '#' ∧ value.toList.head? ≠ some '='

lemma isTokenChar_iff : isTokenChar c ↔ isWhitespace c = false ∧ isControl c = false ∧ c ≠ '"' := by
  simp [isTokenChar]

lemma isValueChar_iff : isValueChar c ↔ isControl c = false ∧ c ≠ '"' := by
  simp [isValueChar]

lemma TokenOk.tokenChars (h : TokenOk value) : TokenChars value.toList := by
  intro c hc
  obtain ⟨hspace, -, hquote⟩ := isTokenChar_iff.1 (h.chars c hc)
  exact ⟨hspace, hquote⟩

lemma wordArgs_eq_iff (h : TokenOk value) : wordArgs value = [value] ↔ StartsPlain value := by
  rw [StartsPlain, ← argsOf_word_iff h.tokenChars (by simpa using h.ne), wordArgs]
  constructor
  · intro heq
    obtain ⟨word, hargs, hword⟩ := List.map_eq_singleton_iff.1 heq
    rw [hargs, ← hword, String.toList_ofList]
  · intro heq
    rw [heq, List.map_singleton, String.ofList_toList]

section Lines

variable {line value : String} {indent keyword : List Char} (hindent : ∀ c ∈ indent, c = ' ')
  (hkeyword : KeywordChars keyword)
include hindent hkeyword

lemma plain_line (hr : ∀ c ∈ rest, isControl c = false) :
    ∀ c ∈ indent ++ (keyword ++ ' ' :: rest), isControl c = false := by
  intro c hc
  simp only [List.mem_append, List.mem_cons] at hc
  rcases hc with hc | hc | rfl | hc
  · rw [hindent c hc]
    decide
  · exact (hkeyword.letters c hc).control
  · decide
  · exact hr c hc

omit hkeyword in
lemma isWhitespace_indent : ∀ c ∈ indent, isWhitespace c := by
  intro c hc
  rw [hindent c hc]
  decide

lemma readsAs_token (hv : TokenOk value) (hl : line.toList = indent ++ (keyword ++ ' ' :: value.toList)) :
    ReadsAs line (String.ofList (keyword.map Char.toLower), wordArgs value) where
  parse := by
    have hne : value.toList ≠ [] := by simpa using hv.ne
    have hla : ∀ c ∈ value.toList.getLast?, isWhitespace c = false := by
      intro c hc
      exact (hv.tokenChars c (List.mem_of_mem_getLast? hc)).1
    rw [← String.ofList_toList (s := line), hl, parseLine_keyword (isWhitespace_indent hindent) hkeyword hla hne, wordArgs]
  plain := by
    rw [hl]
    apply plain_line hindent hkeyword
    intro c hc
    exact (isTokenChar_iff.1 (hv.chars c hc)).2.1

lemma readsAs_quoted (hv : ValueOk value)
    (hl : line.toList = indent ++ (keyword ++ ' ' :: '"' :: (value.toList ++ ['"']))) :
    ReadsAs line (String.ofList (keyword.map Char.toLower), [value]) where
  parse := by
    have hq : '"' ∉ value.toList := fun hm => (isValueChar_iff.1 (hv _ hm)).2 rfl
    have hla : ∀ c ∈ ('"' :: (value.toList ++ ['"'])).getLast?, isWhitespace c = false := by
      rw [← List.cons_append, List.getLast?_concat]
      rintro c ⟨⟩
      decide
    rw [← String.ofList_toList (s := line), hl, parseLine_keyword (isWhitespace_indent hindent) hkeyword hla (by simp),
      argsOf_quoted hq, List.map_singleton, String.ofList_toList]
  plain := by
    rw [hl]
    apply plain_line hindent hkeyword
    intro c hc
    simp only [List.mem_cons, List.mem_append, List.not_mem_nil, or_false] at hc
    rcases hc with rfl | hc | rfl
    · decide
    · exact (isValueChar_iff.1 (hv c hc)).1
    · decide

end Lines

lemma keywordChars_of_isAlphanum (hne : keyword ≠ []) (h : ∀ c ∈ keyword, c.isAlphanum) : KeywordChars keyword :=
  ⟨hne, fun c hc => plainChar_of_isAlphanum (h c hc)⟩

lemma tokenOk_of_plainChar (hne : value ≠ "") (h : ∀ c ∈ value.toList, PlainChar c) : TokenOk value where
  ne := hne
  chars c hc := isTokenChar_iff.2 ⟨(h c hc).space, (h c hc).control, (h c hc).quote⟩

lemma wordArgs_of_plainChar (hne : value ≠ "") (h : ∀ c ∈ value.toList, PlainChar c) : wordArgs value = [value] := by
  rw [wordArgs_eq_iff (tokenOk_of_plainChar hne h)]
  exact ⟨fun hh => (h _ (List.mem_of_mem_head? hh)).comment rfl, fun hh => (h _ (List.mem_of_mem_head? hh)).equals rfl⟩

lemma plainChar_port (n : ℕ) : ∀ c ∈ (toString n).toList, PlainChar c := by
  intro c hc
  have hd : c.isDigit := by
    have ha := Json.Number.all_isDigit_toDigits n
    rw [List.all_eq_true] at ha
    exact ha c (by simpa using hc)
  exact plainChar_of_isAlphanum (by simp [Char.isAlphanum, hd])

/-- The words of a host that stand in a line as they are do not look like a comment or an equals sign. -/
structure HostPlain (host : ManagedHost) : Prop where
  hostName : StartsPlain host.hostName
  user : ∀ user ∈ host.user, StartsPlain user
  proxyJump : ∀ proxyJump ∈ host.proxyJump, StartsPlain proxyJump

lemma readsAs_map {i : List α} (h : ∀ item ∈ i, ReadsAs (line item) (setting item)) :
    List.Forall₂ ReadsAs (i.map line) (i.map setting) := by
  rw [List.forall₂_map_left_iff, List.forall₂_map_right_iff, List.forall₂_same]
  exact h

/-- A keyword that a line is written with, and as which it is read. -/
structure IsKeyword (keyword lower : String) : Prop where
  chars : KeywordChars keyword.toList
  lower : toAsciiLowercase keyword = lower

variable {keyword lower : String}

lemma IsKeyword.of_all (hne : keyword.toList ≠ [])
    (ha : keyword.toList.all Char.isAlphanum) (hl : toAsciiLowercase keyword = lower) : IsKeyword keyword lower :=
  ⟨keywordChars_of_isAlphanum hne (List.all_eq_true.1 ha), hl⟩

lemma IsKeyword.token (h : IsKeyword keyword lower) (hv : TokenOk value) :
    ReadsAs ("  " ++ keyword ++ " " ++ value) (lower, wordArgs value) := by
  have hl : ("  " ++ keyword ++ " " ++ value).toList =
      [' ', ' '] ++ (keyword.toList ++ ' ' :: value.toList) := by simp
  rw [← h.lower]
  exact readsAs_token (by simp) h.chars hv hl

lemma IsKeyword.quoted (h : IsKeyword keyword lower) (hv : ValueOk value) :
    ReadsAs ("  " ++ keyword ++ " \"" ++ value ++ "\"") (lower, [value]) := by
  have hl : ("  " ++ keyword ++ " \"" ++ value ++ "\"").toList =
      [' ', ' '] ++ (keyword.toList ++ ' ' :: '"' :: (value.toList ++ ['"'])) := by simp
  rw [← h.lower]
  exact readsAs_quoted (by simp) h.chars hv hl

lemma readsAs_host (h : HostOk host) : ReadsAs ("Host " ++ host.aliasName) ("host", [host.aliasName]) := by
  have ha := h.aliasName
  simp only [validAlias, decide_eq_true_eq] at ha
  have hch : ∀ c ∈ host.aliasName.toList, PlainChar c := fun c hc =>
    plainChar_of_isAliasChar (ha.2.2.2 c hc)
  have hkeyword : KeywordChars "Host".toList :=
    keywordChars_of_isAlphanum (by simp) (List.all_eq_true.1 (by decide))
  have hl : ("Host " ++ host.aliasName).toList =
      [] ++ ("Host".toList ++ ' ' :: host.aliasName.toList) := by simp
  rw [← wordArgs_of_plainChar ha.1 hch]
  exact readsAs_token (by simp) hkeyword (tokenOk_of_plainChar ha.1 hch) hl

lemma readsAs_port (n : ℕ) : ReadsAs ("  Port " ++ toString n) ("port", [toString n]) := by
  have hkeyword : IsKeyword "Port" "port" := .of_all (by simp) (by decide) (by decide)
  have hne : toString n ≠ "" := by simp
  rw [← wordArgs_of_plainChar hne (plainChar_port n)]
  exact hkeyword.token (tokenOk_of_plainChar hne (plainChar_port n))

lemma readsAs_password : List.Forall₂ ReadsAs
      ["  PreferredAuthentications keyboard-interactive,password", "  PubkeyAuthentication no"]
      [("preferredauthentications", ["keyboard-interactive,password"]), ("pubkeyauthentication", ["no"])] := by
  have hp : IsKeyword "PreferredAuthentications" "preferredauthentications" :=
    .of_all (by simp) (by decide) (by decide)
  have hpu : IsKeyword "PubkeyAuthentication" "pubkeyauthentication" :=
    .of_all (by simp) (by decide) (by decide)
  have hm : TokenOk "keyboard-interactive,password" := ⟨by simp, List.all_eq_true.1 (by decide)⟩
  have hno : TokenOk "no" := ⟨by simp, List.all_eq_true.1 (by decide)⟩
  rw [← (wordArgs_eq_iff hm).2 ⟨by simp, by simp⟩, ← (wordArgs_eq_iff hno).2 ⟨by simp, by simp⟩]
  exact .cons (hp.token hm) (.cons (hpu.token hno) .nil)

lemma HostOk.readsAs (h : HostOk host) : List.Forall₂ ReadsAs host.renderLines host.readings := by
  have hhn : IsKeyword "HostName" "hostname" := .of_all (by simp) (by decide) (by decide)
  have hu : IsKeyword "User" "user" := .of_all (by simp) (by decide) (by decide)
  have hif : IsKeyword "IdentityFile" "identityfile" := .of_all (by simp) (by decide) (by decide)
  have hpj : IsKeyword "ProxyJump" "proxyjump" := .of_all (by simp) (by decide) (by decide)
  unfold ManagedHost.renderLines ManagedHost.readings
  refine List.rel_append (List.rel_append (List.rel_append (List.rel_append (List.rel_append
    (List.rel_append (List.rel_append ?_ ?_) ?_) ?_) ?_) ?_) ?_) ?_
  · exact .cons (readsAs_host h) .nil
  · exact .cons (hhn.token h.hostName) .nil
  · refine readsAs_map fun user hm => ?_
    rw [Option.mem_toList] at hm
    exact hu.token (h.user user hm)
  · exact readsAs_map fun p _ => readsAs_port p.toNat
  · refine readsAs_map fun i hm => ?_
    rw [Option.mem_toList] at hm
    exact hif.quoted (h.identityFile i hm)
  · split
    · exact readsAs_password
    · exact .nil
  · refine readsAs_map fun pj hm => ?_
    rw [Option.mem_toList] at hm
    exact hpj.token (h.proxyJump pj hm)
  · refine readsAs_map fun o hm => ?_
    have ho := h.options o hm
    have hkeyword : IsKeyword o.key (toAsciiLowercase o.key) :=
      ⟨keywordChars_of_isAlphanum (by simpa using ho.ne) ho.key, rfl⟩
    exact hkeyword.quoted ho.value

/-- The lines of a host are read as its settings exactly when its words are plain. -/
lemma HostOk.readings_eq_settings_iff (h : HostOk host) : host.readings = host.settings ↔ HostPlain host := by
  have hhostName := wordArgs_eq_iff h.hostName
  have huser : (∀ user ∈ host.user, wordArgs user = [user]) ↔ ∀ user ∈ host.user, StartsPlain user :=
    forall₂_congr fun user hm => wordArgs_eq_iff (h.user user hm)
  have hproxyJump : (∀ jump ∈ host.proxyJump, wordArgs jump = [jump]) ↔ ∀ jump ∈ host.proxyJump, StartsPlain jump :=
    forall₂_congr fun jump hm => wordArgs_eq_iff (h.proxyJump jump hm)
  rw [show HostPlain host ↔ StartsPlain host.hostName ∧ _ ∧ _ from
    ⟨fun hp => ⟨hp.1, hp.2, hp.3⟩, fun hp => ⟨hp.1, hp.2.1, hp.2.2⟩⟩, ← hhostName, ← huser, ← hproxyJump]
  cases hu : host.user <;> cases hj : host.proxyJump <;> simp [ManagedHost.readings, ManagedHost.settings, hu, hj]

lemma length_readings (host : ManagedHost) : host.readings.length = host.settings.length := by
  simp [ManagedHost.readings, ManagedHost.settings]

lemma flatMap_readings_eq_iff {hosts : List ManagedHost} (h : ∀ host ∈ hosts, HostOk host) :
    hosts.flatMap ManagedHost.readings = hosts.flatMap ManagedHost.settings ↔ ∀ host ∈ hosts, HostPlain host := by
  induction hosts with
  | nil => simp
  | cons host hosts ih =>
    obtain ⟨hhost, hhosts⟩ := List.forall_mem_cons.1 h
    rw [List.flatMap_cons, List.flatMap_cons, List.forall_mem_cons, ← ih hhosts, ← hhost.readings_eq_settings_iff]
    constructor
    · exact fun heq => List.append_inj heq (length_readings host)
    · rintro ⟨hread, hrest⟩
      rw [hread, hrest]

/-! ### The file of the managed hosts -/

/-- A line that is neither blank nor a comment. -/
def hasSetting (line : String) : Bool :=
  ¬ (trimChars line.toList = [] ∨ (trimChars line.toList).head? = some '#')

/-- What the daemon reads of a file: each line that is neither blank nor a comment. -/
def readSettings (text : String) : List (Option (String × List String)) :=
  ((lines text).filter hasSetting).map parseLine

lemma ReadsAs.hasSetting (h : ReadsAs line setting) : hasSetting line := by
  have hp := h.parse
  rw [Todex.hasSetting, decide_eq_true_eq]
  intro hb
  rw [parseLine, if_pos hb] at hp
  cases hp

lemma map_parseLine
    (h : List.Forall₂ ReadsAs texts settings) : (texts.filter hasSetting).map parseLine = settings.map some := by
  induction h with
  | nil => rfl
  | cons hl _ ih =>
    rw [List.filter_cons_of_pos hl.hasSetting, List.map_cons, ih, hl.parse, List.map_cons]

lemma map_parseLine_hosts {hosts : List ManagedHost} (h : ∀ host ∈ hosts, HostOk host) :
    ((hosts.flatMap fun host => "" :: host.renderLines).filter hasSetting).map parseLine =
      (hosts.flatMap ManagedHost.readings).map some := by
  have hb : ¬ hasSetting "" := by decide
  induction hosts with
  | nil => rfl
  | cons host hosts ih =>
    obtain ⟨hhost, hhosts⟩ := List.forall_mem_cons.1 h
    rw [List.flatMap_cons, List.flatMap_cons, List.filter_append, List.filter_cons_of_neg hb,
      List.map_append, List.map_append, map_parseLine hhost.readsAs, ih hhosts]

lemma plain_managedLines {hosts : List ManagedHost} (h : ∀ host ∈ hosts, HostOk host) :
    ∀ line ∈ managedLines hosts, ∀ c ∈ line.toList, isControl c = false := by
  have ha : ∀ t s, List.Forall₂ ReadsAs t s →
      ∀ line ∈ t, ∀ c ∈ line.toList, isControl c = false := by
    intro t s hr
    induction hr with
    | nil => simp
    | cons hl _ ih => exact List.forall_mem_cons.2 ⟨hl.plain, ih⟩
  intro line hl
  simp only [managedLines, List.mem_cons, List.mem_flatMap] at hl
  rcases hl with rfl | ⟨host, hm, rfl | hl⟩
  · intro c hc
    have hh : ("# Generated by TodeX from its SSH host list. Manual edits are overwritten.").toList.all
        (! isControl ·) := by decide
    simpa using List.all_eq_true.1 hh c hc
  · simp
  · exact ha _ _ (h host hm).readsAs line hl

/-- Normalized hosts are read back as their settings and nothing else, exactly when none of the words that stand in
a line as they are looks like a comment or an equals sign. -/
theorem readSettings_renderManagedHosts {hosts : List ManagedHost}
    (h : ∀ host ∈ hosts, ∃ input : ManagedHost, input.normalized = .ok host) :
    readSettings (renderManagedHosts hosts) = (hosts.flatMap ManagedHost.settings).map some ↔
      ∀ host ∈ hosts, HostPlain host := by
  have hok : ∀ host ∈ hosts, HostOk host := by
    intro host hmem
    obtain ⟨input, hi⟩ := h host hmem
    exact hostOk_of_normalized hi
  have hh : ¬ hasSetting "# Generated by TodeX from its SSH host list. Manual edits are overwritten." := by
    decide
  rw [readSettings, renderManagedHosts, lines_join (plain_managedLines hok), managedLines,
    List.filter_cons_of_neg hh, map_parseLine_hosts hok, (List.map_injective_iff.2 (Option.some_injective _)).eq_iff,
    flatMap_readings_eq_iff hok]

/-- A host with two fields. -/
def plainHost (aliasName hostName : String) : ManagedHost where
  aliasName
  hostName
  user := none
  port := none
  identityFile := none
  proxyJump := none
  options := []
  authMethod := .key

lemma normalized_plainHost (ha : validAlias aliasName)
    (hat : trim aliasName = aliasName) (htr : trim hostName = hostName)
    (hhn : TokenOk hostName) (hd : hostName.toList.head? ≠ some '-') (hl : hostName.utf8ByteSize ≤ 255) :
    (plainHost aliasName hostName).normalized = .ok (plainHost aliasName hostName) := by
  have ht : (plainHost aliasName hostName).trimmed = plainHost aliasName hostName := by
    simp [ManagedHost.trimmed, plainHost, hat, htr, trimField]
  rw [ManagedHost.normalized, ht]
  refine Except.require_bind_eq_ok.2 ⟨ha, ?_⟩
  refine Except.bind_eq_ok.2 ⟨(), ?_, rfl⟩
  simp only [validateToken, Except.require_bind_eq_ok, Except.require_eq_ok]
  exact ⟨⟨hhn.ne, hl⟩, hd, hhn.chars⟩

lemma validAlias_web : validAlias "web" := by
  rw [validAlias, decide_eq_true_eq]
  exact ⟨by simp, by decide, by simp, List.all_eq_true.1 (by decide)⟩

theorem readSettings_renderManagedHosts_web :
    (plainHost "web" "10.0.0.1").normalized = .ok (plainHost "web" "10.0.0.1") ∧
      readSettings (renderManagedHosts [plainHost "web" "10.0.0.1"]) =
        ((plainHost "web" "10.0.0.1").settings).map some := by
  have h : (plainHost "web" "10.0.0.1").normalized = .ok (plainHost "web" "10.0.0.1") :=
    normalized_plainHost validAlias_web (by decide) (by decide) ⟨by simp, List.all_eq_true.1 (by decide)⟩
      (by simp) (by decide)
  refine ⟨h, ?_⟩
  have hin : ∀ host ∈ [plainHost "web" "10.0.0.1"], ∃ input : ManagedHost, input.normalized = .ok host := by
    simpa using ⟨_, h⟩
  have hread := (readSettings_renderManagedHosts hin).2
    (by simpa using ⟨⟨by decide, by decide⟩, by simp [plainHost], by simp [plainHost]⟩)
  simpa using hread

/-- A host name that looks like a comment is accepted, and its line has no argument. -/
theorem readSettings_comment_hostName :
    (plainHost "web" "#1").normalized = .ok (plainHost "web" "#1") ∧
      readSettings (renderManagedHosts [plainHost "web" "#1"]) =
        [some ("host", ["web"]), some ("hostname", [])] ∧
      (plainHost "web" "#1").settings = [("host", ["web"]), ("hostname", ["#1"])] := by
  refine ⟨normalized_plainHost validAlias_web (by decide) (by decide) ?_ (by simp) (by decide), by decide +kernel,
    by decide⟩
  exact ⟨by simp, List.all_eq_true.1 (by decide)⟩

end Todex
