import TileRealm.Proofs.Text.Digit
import TileRealm.Settings.Arguments

/-!
# What a command line says

Numbers, options and command lines, each with what is right, what is the first thing wrong, and the proof that it is
read in just this way.

- `IsNumeral`, `NumeralFault`, `readNumber_eq_ok_iff`, `readNumber_eq_error_iff`: decimal numbers of 64 bits;
- `Choice`, `commandLine`: options with values that they take, and how they are written one after the other;
- `Arguments.Holds`, `Arguments.parseFrom_commandLine`: of such a command line each option keeps its last value;
- `FirstFault`, `Arguments.parse_of_firstFault`, `exists_commandLine_or_firstFault`: all other command lines have a first
  fault, which is the error;
- `Arguments.loaded`, `Arguments.Overrides`: what a command line changes of the settings;
- `Arguments.parse_exact`: so every command line is read exactly.
-/

set_option autoImplicit false

namespace TileRealm

/-! ## Numbers -/

/-- The characters of a number, without the plus that may stand in front of them. -/
def unsigned : List Char → List Char
  | '+' :: cs => cs
  | cs => cs

/-- The text is a decimal form of the number: one digit or more, maybe with a plus in front. -/
structure IsNumeral (raw : String) (n : UInt64) : Prop where
  nonempty : unsigned raw.toList ≠ []
  digits : ∀ c ∈ unsigned raw.toList, c.isDigit = true
  value : Nat.ofDigitChars 10 (unsigned raw.toList) 0 = n.toNat

/-- What is the first thing wrong with a text that is no number. -/
inductive NumeralFault (raw : String) : NumberFault → Prop
  | empty : raw = "" → NumeralFault raw .empty
  | sign : raw = "+" → NumeralFault raw .notDigit
  | stray {before after : List Char} {c : Char} : unsigned raw.toList = before ++ c :: after →
      (∀ d ∈ before, d.isDigit = true) → Nat.ofDigitChars 10 before 0 < UInt64.size → ¬ c.isDigit = true →
      NumeralFault raw .notDigit
  | tooLarge {before after : List Char} : unsigned raw.toList = before ++ after →
      (∀ d ∈ before, d.isDigit = true) → UInt64.size ≤ Nat.ofDigitChars 10 before 0 → NumeralFault raw .tooLarge

section

variable {raw : String} {n : UInt64} {fault : NumberFault} {start : Nat} {before after cs : List Char} {c : Char}

/-- The digits in front are read before what comes behind them, if they stand for a number that is not too large. -/
theorem readDigits_append (hbefore : ∀ d ∈ before, d.isDigit = true)
    (hsmall : Nat.ofDigitChars 10 before start < UInt64.size) (cs : List Char) :
    readDigits start (before ++ cs) = readDigits (Nat.ofDigitChars 10 before start) cs := by
  induction before generalizing start with
  | nil => rfl
  | cons d before ih =>
    obtain ⟨hd, hbefore⟩ := List.forall_mem_cons.mp hbefore
    rw [Nat.ofDigitChars_cons, Nat.mul_comm] at hsmall ⊢
    have hstep := Nat.lt_of_le_of_lt (Text.le_ofDigitChars before _) hsmall
    rw [List.cons_append, readDigits, Text.digitValue?_of_isDigit hd]
    simp only [hstep, if_true]
    exact ih hbefore hsmall

theorem readDigits_of_stray (hbefore : ∀ d ∈ before, d.isDigit = true)
    (hsmall : Nat.ofDigitChars 10 before start < UInt64.size) (hc : ¬ c.isDigit = true) (after : List Char) :
    readDigits start (before ++ c :: after) = .error .notDigit := by
  rw [readDigits_append hbefore hsmall, readDigits, Text.digitValue?_of_not_isDigit hc]

/-- The first digit that makes the number too large is where reading stops. -/
theorem readDigits_of_tooLarge (hbefore : ∀ d ∈ before, d.isDigit = true) (hstart : start < UInt64.size)
    (hlarge : UInt64.size ≤ Nat.ofDigitChars 10 before start) (after : List Char) :
    readDigits start (before ++ after) = .error .tooLarge := by
  induction before generalizing start with
  | nil => exact absurd hstart (Nat.not_lt_of_le hlarge)
  | cons d before ih =>
    obtain ⟨hd, hbefore⟩ := List.forall_mem_cons.mp hbefore
    rw [Nat.ofDigitChars_cons, Nat.mul_comm] at hlarge
    rw [List.cons_append, readDigits, Text.digitValue?_of_isDigit hd]
    dsimp only
    split
    · rename_i hstep
      exact ih hbefore hstep hlarge
    · rfl

theorem unsigned_eq_nil_iff : unsigned raw.toList = [] ↔ raw = "" ∨ raw = "+" := by
  rw [← String.toList_inj, ← String.toList_inj]
  cases raw.toList with
  | nil => simp [unsigned]
  | cons c cs =>
    by_cases hc : c = '+' <;> simp [unsigned, hc]

theorem readNumber_eq (raw : String) : readNumber raw =
    if raw = "" then .error .empty
    else if unsigned raw.toList = [] then .error .notDigit
    else UInt64.ofNat <$> readDigits 0 (unsigned raw.toList) := by
  simp only [readNumber, ← String.toList_eq_nil_iff]
  cases raw.toList with
  | nil => rfl
  | cons c cs =>
    by_cases hc : c = '+'
    · subst hc
      cases cs <;> rfl
    · simp [unsigned, hc]

theorem readNumber_of_isNumeral (h : IsNumeral raw n) : readNumber raw = .ok n := by
  have hne : raw ≠ "" := by
    rintro rfl
    exact h.nonempty rfl
  have hsmall : Nat.ofDigitChars 10 (unsigned raw.toList) 0 < UInt64.size := h.value ▸ n.toNat_lt
  have hread := readDigits_append h.digits hsmall []
  rw [List.append_nil, readDigits, h.value] at hread
  rw [readNumber_eq, if_neg hne, if_neg h.nonempty, hread]
  exact congrArg Except.ok UInt64.ofNat_toNat

theorem readNumber_of_numeralFault (h : NumeralFault raw fault) : readNumber raw = .error fault := by
  -- behind the sign there is something, so that it is no matter what the whole text is
  have hread : ∀ {cs : List Char}, unsigned raw.toList = cs → cs ≠ [] →
      readDigits 0 cs = .error fault → readNumber raw = .error fault := by
    rintro _ rfl hne hread
    have hraw : raw ≠ "" := by
      rintro rfl
      exact hne rfl
    rw [readNumber_eq, if_neg hraw, if_neg hne, hread]
    rfl
  cases h with
  | empty hraw => rw [readNumber_eq, if_pos hraw]
  | sign hraw =>
    subst hraw
    rfl
  | stray hcs hbefore hsmall hc => exact hread hcs (by simp) (readDigits_of_stray hbefore hsmall hc _)
  | @tooLarge before after hcs hbefore hlarge =>
    refine hread hcs ?_ (readDigits_of_tooLarge hbefore (by decide) hlarge after)
    rintro hnil
    rw [(List.append_eq_nil_iff.mp hnil).1, Nat.ofDigitChars_nil] at hlarge
    exact absurd hlarge (by decide)

/-- A text that is no number has a first fault: behind the first digits stands something else, or they are too many. -/
theorem exists_numeral_or_fault (raw : String) : (∃ n, IsNumeral raw n) ∨ ∃ fault, NumeralFault raw fault := by
  cases hcs : unsigned raw.toList with
  | nil =>
    rcases unsigned_eq_nil_iff.mp hcs with hempty | hsign
    · exact Or.inr ⟨_, .empty hempty⟩
    · exact Or.inr ⟨_, .sign hsign⟩
  | cons c cs =>
    have hsplit : unsigned raw.toList = (c :: cs).takeWhile Char.isDigit ++ (c :: cs).dropWhile Char.isDigit := by
      rw [List.takeWhile_append_dropWhile, hcs]
    have hdigits := List.all_eq_true.mp (List.all_takeWhile (p := Char.isDigit) (l := c :: cs))
    have hstray := List.head?_dropWhile_not Char.isDigit (c :: cs)
    generalize (c :: cs).takeWhile Char.isDigit = before at hsplit hdigits
    generalize (c :: cs).dropWhile Char.isDigit = after at hsplit hstray
    rcases Nat.lt_or_ge (Nat.ofDigitChars 10 before 0) UInt64.size with hsmall | hlarge
    · cases after with
      | nil =>
        rw [List.append_nil] at hsplit
        refine Or.inl ⟨UInt64.ofNat (Nat.ofDigitChars 10 before 0), ?_, ?_, ?_⟩
        · simp [hcs]
        · exact hsplit ▸ hdigits
        · rw [hsplit, UInt64.toNat_ofNat_of_lt' hsmall]
      | cons d after => exact Or.inr ⟨_, .stray hsplit hdigits hsmall (by simpa using hstray)⟩
    · exact Or.inr ⟨_, .tooLarge hsplit hdigits hlarge⟩

theorem readNumber_eq_ok_iff : readNumber raw = .ok n ↔ IsNumeral raw n := by
  refine ⟨fun h => ?_, readNumber_of_isNumeral⟩
  rcases exists_numeral_or_fault raw with ⟨m, hm⟩ | ⟨fault, hfault⟩
  · rw [readNumber_of_isNumeral hm, Except.ok.injEq] at h
    exact h ▸ hm
  · rw [readNumber_of_numeralFault hfault] at h
    cases h

theorem readNumber_eq_error_iff : readNumber raw = .error fault ↔ NumeralFault raw fault := by
  refine ⟨fun h => ?_, readNumber_of_numeralFault⟩
  rcases exists_numeral_or_fault raw with ⟨n, hn⟩ | ⟨fault', hfault⟩
  · rw [readNumber_of_isNumeral hn] at h
    cases h
  · rw [readNumber_of_numeralFault hfault, Except.error.injEq] at h
    exact h ▸ hfault

end

/-! ## Options -/

/-- The values that an option takes: any path, but only numbers. -/
def Flag.Takes : Flag → String → Prop
  | config, _ => True
  | seed, value => ∃ n, IsNumeral value n
  | maxTicks, value => ∃ n, IsNumeral value n

/-- An option with a value that it takes. -/
structure Choice where
  flag : Flag
  value : String
  takes : flag.Takes value

/-- How options are written, one after the other. -/
def commandLine (choices : List Choice) : List String :=
  choices.flatMap fun c => [c.flag.text, c.value]

/-- The last value of an option, if it has one. -/
def lastValue (flag : Flag) (choices : List Choice) : Option String :=
  (choices.filter (·.flag = flag)).getLast?.map Choice.value

/-- What is asked for is the last value of each option, and nothing where there is none. -/
structure Arguments.Holds (a : Arguments) (choices : List Choice) : Prop where
  configPath : a.configPath = lastValue .config choices
  seed : Option.Rel IsNumeral (lastValue .seed choices) a.seed
  maxTicks : Option.Rel IsNumeral (lastValue .maxTicks choices) a.maxTicks

/-- What is the first thing wrong with a command line; what stands in front of it is options with values that they
take. -/
inductive FirstFault (arguments : List String) : ArgumentError → Prop
  | unknown {choices : List Choice} {argument : String} {rest : List String} :
      arguments = commandLine choices ++ argument :: rest → (∀ flag : Flag, argument ≠ flag.text) →
      FirstFault arguments (.unknown argument)
  | noValue {choices : List Choice} {flag : Flag} :
      arguments = commandLine choices ++ [flag.text] → FirstFault arguments (.noValue flag)
  | number {choices : List Choice} {flag : Flag} {raw : String} {rest : List String} {fault : NumberFault} :
      arguments = commandLine choices ++ flag.text :: raw :: rest → flag ≠ .config → NumeralFault raw fault →
      FirstFault arguments (.number flag raw fault)

section

variable {a b : Arguments} {choices : List Choice} {flag : Flag} {arguments rest : List String} {raw : String}
  {e : ArgumentError} {fault : NumberFault}

theorem lastValue_concat (flag : Flag) (choices : List Choice) (c : Choice) :
    lastValue flag (choices ++ [c]) = if c.flag = flag then some c.value else lastValue flag choices := by
  rw [lastValue, List.filter_append]
  split
  · rename_i h
    simp [h]
  · rename_i h
    simp [h, lastValue]

theorem commandLine_concat (choices : List Choice) (c : Choice) (rest : List String) :
    commandLine (choices ++ [c]) ++ rest = commandLine choices ++ c.flag.text :: c.value :: rest := by
  simp [commandLine]

namespace Arguments

theorem holds_nil : ({} : Arguments).Holds [] where
  configPath := rfl
  seed := .none
  maxTicks := .none

/-- An option with a value that it takes is taken note of, over any other value that it had. -/
theorem Holds.set (h : a.Holds choices) (c : Choice) :
    ∃ b, a.set c.flag c.value = .ok b ∧ b.Holds (choices ++ [c]) := by
  obtain ⟨flag, value, htakes⟩ := c
  cases flag with
  | config =>
    refine ⟨{ a with configPath := some value }, rfl, ?_, ?_, ?_⟩
    · rw [lastValue_concat, if_pos rfl]
    · rw [lastValue_concat, if_neg nofun]
      exact h.seed
    · rw [lastValue_concat, if_neg nofun]
      exact h.maxTicks
  | seed =>
    obtain ⟨n, hn⟩ := htakes
    refine ⟨{ a with seed := some n }, ?_, ?_, ?_, ?_⟩
    · rw [Arguments.set, readNumber_eq_ok_iff.mpr hn]
      rfl
    · rw [lastValue_concat, if_neg nofun]
      exact h.configPath
    · rw [lastValue_concat, if_pos rfl]
      exact .some hn
    · rw [lastValue_concat, if_neg nofun]
      exact h.maxTicks
  | maxTicks =>
    obtain ⟨n, hn⟩ := htakes
    refine ⟨{ a with maxTicks := some n }, ?_, ?_, ?_, ?_⟩
    · rw [Arguments.set, readNumber_eq_ok_iff.mpr hn]
      rfl
    · rw [lastValue_concat, if_neg nofun]
      exact h.configPath
    · rw [lastValue_concat, if_neg nofun]
      exact h.seed
    · rw [lastValue_concat, if_pos rfl]
      exact .some hn

/-- Options in front are read before what comes behind them. -/
theorem parseFrom_commandLine (choices : List Choice) :
    ∃ a : Arguments, a.Holds choices ∧ ∀ rest, parse (commandLine choices ++ rest) = a.parseFrom rest := by
  induction choices using List.reverseRecOn with
  | nil => exact ⟨{}, holds_nil, fun rest => rfl⟩
  | append_singleton choices c ih =>
    obtain ⟨a, ha, hread⟩ := ih
    obtain ⟨b, hset, hb⟩ := ha.set c
    refine ⟨b, hb, fun rest => ?_⟩
    rw [commandLine_concat, hread, parseFrom_option, hset]
    rfl

theorem set_of_numeralFault (hflag : flag ≠ .config) (h : NumeralFault raw fault) :
    a.set flag raw = .error (.number flag raw fault) := by
  cases flag with
  | config => exact absurd rfl hflag
  | seed => rw [set, readNumber_eq_error_iff.mpr h]; rfl
  | maxTicks => rw [set, readNumber_eq_error_iff.mpr h]; rfl

theorem parseFrom_of_unknown {argument : String} (h : ∀ flag : Flag, argument ≠ flag.text) (rest : List String) :
    a.parseFrom (argument :: rest) = .error (.unknown argument) := by
  have hnone : Flag.ofText? argument = none := by
    rw [Option.eq_none_iff_forall_ne_some]
    exact fun flag hflag => h flag (Flag.ofText?_eq_some_iff.mp hflag)
  cases rest with
  | nil => rw [parseFrom, hnone]
  | cons value rest => rw [parseFrom, hnone]

/-- A command line with a first fault is refused for it. -/
theorem parse_of_firstFault (h : FirstFault arguments e) : parse arguments = .error e := by
  cases h with
  | @unknown choices argument rest harguments hunknown =>
    obtain ⟨a, -, hread⟩ := parseFrom_commandLine choices
    rw [harguments, hread, parseFrom_of_unknown hunknown]
  | @noValue choices flag harguments =>
    obtain ⟨a, -, hread⟩ := parseFrom_commandLine choices
    rw [harguments, hread, parseFrom, Flag.ofText?_text]
  | @number choices flag raw rest fault harguments hflag hfault =>
    obtain ⟨a, -, hread⟩ := parseFrom_commandLine choices
    rw [harguments, hread, parseFrom_option, set_of_numeralFault hflag hfault]
    rfl

end Arguments

/-- A first fault stays the first behind one more option. -/
theorem FirstFault.cons (h : FirstFault rest e) (c : Choice) : FirstFault (c.flag.text :: c.value :: rest) e := by
  cases h with
  | @unknown choices _ _ hrest hunknown =>
    exact .unknown (by rw [hrest]; rfl : _ = commandLine (c :: choices) ++ _) hunknown
  | @noValue choices _ hrest => exact .noValue (by rw [hrest]; rfl : _ = commandLine (c :: choices) ++ _)
  | @number choices _ _ _ _ hrest hflag hfault =>
    exact .number (by rw [hrest]; rfl : _ = commandLine (c :: choices) ++ _) hflag hfault

theorem Flag.takes_or_fault (flag : Flag) (raw : String) :
    flag.Takes raw ∨ flag ≠ .config ∧ ∃ fault, NumeralFault raw fault := by
  have hnumber : (∃ n, IsNumeral raw n) ∨ ∃ fault, NumeralFault raw fault := by
    cases hread : readNumber raw with
    | ok n => exact .inl ⟨n, readNumber_eq_ok_iff.mp hread⟩
    | error fault => exact .inr ⟨fault, readNumber_eq_error_iff.mp hread⟩
  cases flag with
  | config => exact .inl trivial
  | seed => exact hnumber.imp_right fun hfault => ⟨nofun, hfault⟩
  | maxTicks => exact hnumber.imp_right fun hfault => ⟨nofun, hfault⟩

/-- What is not just options has a first fault. -/
theorem exists_commandLine_or_firstFault : ∀ arguments : List String,
    (∃ choices, arguments = commandLine choices) ∨ ∃ e, FirstFault arguments e
  | [] => .inl ⟨[], rfl⟩
  | [argument] => by
    by_cases hflag : ∃ flag : Flag, argument = flag.text
    · obtain ⟨flag, rfl⟩ := hflag
      exact .inr ⟨_, .noValue (rfl : _ = commandLine [] ++ _)⟩
    · exact .inr ⟨_, .unknown (rfl : _ = commandLine [] ++ _) (not_exists.mp hflag)⟩
  | argument :: value :: rest => by
    by_cases hflag : ∃ flag : Flag, argument = flag.text
    · obtain ⟨flag, rfl⟩ := hflag
      rcases flag.takes_or_fault value with htakes | ⟨hnumber, fault, hfault⟩
      · rcases exists_commandLine_or_firstFault rest with ⟨choices, rfl⟩ | ⟨e, he⟩
        · exact .inl ⟨⟨flag, value, htakes⟩ :: choices, rfl⟩
        · exact .inr ⟨e, he.cons ⟨flag, value, htakes⟩⟩
      · exact .inr ⟨_, .number (rfl : _ = commandLine [] ++ _) hnumber hfault⟩
    · exact .inr ⟨_, .unknown (rfl : _ = commandLine [] ++ _) (not_exists.mp hflag)⟩

namespace Arguments

/-- A command line of options keeps the last value of each. -/
theorem parse_commandLine (choices : List Choice) :
    ∃ a : Arguments, parse (commandLine choices) = .ok a ∧ a.Holds choices := by
  obtain ⟨a, ha, hread⟩ := parseFrom_commandLine choices
  have hparse := hread []
  rw [List.append_nil, parseFrom_nil] at hparse
  exact ⟨a, hparse, ha⟩

theorem exists_parse_eq_ok_iff :
    (∃ a, parse arguments = .ok a) ↔ ∃ choices, arguments = commandLine choices := by
  constructor
  · rintro ⟨a, ha⟩
    refine (exists_commandLine_or_firstFault arguments).resolve_right ?_
    rintro ⟨e, he⟩
    rw [parse_of_firstFault he] at ha
    cases ha
  · rintro ⟨choices, rfl⟩
    obtain ⟨a, ha, -⟩ := parse_commandLine choices
    exact ⟨a, ha⟩

theorem parse_eq_error_iff : parse arguments = .error e ↔ FirstFault arguments e := by
  refine ⟨fun h => ?_, parse_of_firstFault⟩
  rcases exists_commandLine_or_firstFault arguments with hoptions | ⟨e', he⟩
  · obtain ⟨a, ha⟩ := exists_parse_eq_ok_iff.mpr hoptions
    rw [ha] at h
    cases h
  · rw [parse_of_firstFault he, Except.error.injEq] at h
    exact h ▸ he

end Arguments

end

/-! ## Settings -/

namespace Arguments

/-- The settings in the file that was asked for, and the defaults if none was. -/
def loaded (a : Arguments) (files : String → FileContent) : Except SettingsError Settings :=
  match a.configPath with
  | none => .ok {}
  | some path => Settings.load (files path)

/-- The settings `t` are the settings `s` but for the seed and the last tick, and for these only if they were asked
for. -/
structure Overrides (a : Arguments) (s t : Settings) : Prop where
  seed : t.scene.seed = a.seed.getD s.scene.seed
  maxTicks : t.tick.maxTicks = a.maxTicks.getD s.tick.maxTicks
  rest : { t with
    scene := { t.scene with seed := s.scene.seed }
    tick := { t.tick with maxTicks := s.tick.maxTicks } } = s

theorem overrides (a : Arguments) (s : Settings) : a.Overrides s (a.override s) where
  seed := rfl
  maxTicks := rfl
  rest := rfl

theorem settings_eq (a : Arguments) (files : String → FileContent) :
    a.settings files = (a.loaded files).map a.override := by
  rw [settings, loaded]
  cases a.configPath with
  | none => rfl
  | some path => rfl

/-- **Reading a command line.** A command line is read just if it is options with values that they take, one after the
other, and then each option keeps its last value.  All others are refused for the first thing that is wrong with them.
What is asked for changes only the seed and the last tick of the settings that were loaded, and nothing if it is not
asked for. -/
theorem parse_exact (arguments : List String) :
    ((∃ a, parse arguments = .ok a) ↔ ∃ choices, arguments = commandLine choices) ∧
    (∀ choices, arguments = commandLine choices → ∃ a, parse arguments = .ok a ∧ a.Holds choices) ∧
    (∀ e, parse arguments = .error e ↔ FirstFault arguments e) ∧
    ∀ (a : Arguments) (files : String → FileContent),
      (∀ e, a.settings files = .error e ↔ a.loaded files = .error e) ∧
      ∀ s, a.loaded files = .ok s → ∃ t, a.settings files = .ok t ∧ a.Overrides s t := by
  refine ⟨exists_parse_eq_ok_iff, ?_, fun e => parse_eq_error_iff, fun a files => ⟨fun e => ?_, fun s hs => ?_⟩⟩
  · rintro choices rfl
    exact parse_commandLine choices
  · rw [settings_eq]
    cases a.loaded files <;> simp [Except.map]
  · exact ⟨a.override s, by rw [settings_eq, hs]; rfl, a.overrides s⟩

-- the value of `--config` looks like an option, and the seed is asked for twice
example : parse ["--seed", "+007", "--config", "--seed", "--seed", "9"] = .ok ⟨some "--seed", some 9, none⟩ := by
  decide +kernel

-- the number is in front of the argument without a value
example : parse ["--max-ticks", "18446744073709551616", "--seed"] =
    .error (.number .maxTicks "18446744073709551616" .tooLarge) := by decide +kernel

end Arguments

end TileRealm
