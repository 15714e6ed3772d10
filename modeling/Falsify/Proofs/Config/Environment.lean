import Falsify.Config.Environment
import Falsify.Proofs.Check.Verdict
import Falsify.Proofs.Text.Blank
import Mathlib

/-!
# The grammar of the variables

Which values of the variables are read, what each of them means for the settings, and which fault is reported of
those that are not.  Each setting depends on one variable alone; only what is reported depends on their order.

## Key results

- `number?_eq_some_iff`, `flag?_eq_some_iff`: what is read as a number, and what as a yes or a no.
- `ofLookup_eq_ok_iff`: the settings of a set of variables.
- `ofLookup_eq_error_iff`: the fault that is reported is the first one.
- `environment_accepts_grammar`: the grammar, the settings and the faults together.
-/

namespace Falsify.Config

open Text

/-! ## Numbers and flags -/

/-- A text is a numeral of a number: an optional plus sign and one or more ASCII digits, amid blanks. -/
def Numeral (text : String) (n : Nat) : Prop :=
  ∃ sign digits, (sign = [] ∨ sign = ['+']) ∧ digits ≠ [] ∧ (∀ c ∈ digits, c.isDigit = true) ∧
    Nat.ofDigits 10 (digits.reverse.map fun c => c.toNat - '0'.toNat) = n ∧
    AmidBlanks (sign ++ digits) text.toList

/-- The words for a yes and for a no, in lower case. -/
def flagWords : Bool → List String
  | true => ["1", "true", "yes", "on"]
  | false => ["0", "false", "no", "off", ""]

/-- A text is a word for a yes or for a no, in any case of the ASCII letters and amid blanks. -/
def FlagWord (text : String) (b : Bool) : Prop :=
  ∃ word, String.ofList (word.map Char.toLower) ∈ flagWords b ∧ AmidBlanks word text.toList

/-- The value of a row of digits is the sum of the digits times the powers of ten. -/
theorem ofDigits_eq_value (digits : List Char) :
    Nat.ofDigits 10 (digits.reverse.map fun c => c.toNat - '0'.toNat) = value digits := by
  induction digits using List.reverseRecOn with
  | nil => rfl
  | append_singleton digits c ih =>
    rw [List.reverse_append, List.reverse_singleton, List.singleton_append, List.map_cons, Nat.ofDigits_cons, ih,
      value_concat, Nat.add_comm]

/-- The reader of numbers accepts the numerals of the grammar, each as its number. -/
theorem number?_eq_some_iff {text : String} {n : UInt64} : number? text = some n ↔ Numeral text n.toNat := by
  constructor
  · intro h
    have hamid := amidBlanks_trim text.toList
    unfold number? at h
    split at h
    · rename_i digits htrim
      obtain ⟨hne, hdigits, hvalue⟩ := word?_eq_some_iff.1 h
      rw [htrim] at hamid
      exact ⟨['+'], digits, .inr rfl, hne, List.all_eq_true.1 hdigits, by rw [ofDigits_eq_value, hvalue], hamid⟩
    · obtain ⟨hne, hdigits, hvalue⟩ := word?_eq_some_iff.1 h
      exact ⟨[], _, .inl rfl, hne, List.all_eq_true.1 hdigits, by rw [ofDigits_eq_value, hvalue], hamid⟩
  · rintro ⟨sign, digits, hsign, hne, hdigits, hvalue, hamid⟩
    have hword : word? digits = some n :=
      word?_eq_some_iff.2 ⟨hne, List.all_eq_true.2 hdigits, by rw [← ofDigits_eq_value, hvalue]⟩
    have hnoBlank : ∀ c ∈ sign ++ digits, isBlank c = false := by
      intro c hc
      rcases List.mem_append.1 hc with hc | hc
      · rcases hsign with rfl | rfl
        · cases hc
        · rw [List.mem_singleton.1 hc]
          decide
      · exact isBlank_of_isDigit (hdigits c hc)
    have htrim := trim_of_amidBlanks hnoBlank hamid
    unfold number?
    rw [htrim]
    rcases hsign with rfl | rfl
    · -- A digit is not a sign.
      obtain ⟨c, rest, rfl, hdigit⟩ := exists_cons_of_isDigit hne hdigits
      split
      · rename_i hplus
        rw [(List.cons.inj hplus).1] at hdigit
        exact absurd hdigit (by decide)
      · exact hword
    · exact hword

/-- No word for a yes or for a no has a blank in it. -/
theorem isBlank_eq_false_of_mem_flagWords {b : Bool} {word : List Char}
    (h : String.ofList (word.map Char.toLower) ∈ flagWords b) : ∀ c ∈ word, isBlank c = false := by
  have hwords : (flagWords b).all (fun w => w.toList.all fun c => !isBlank c) = true := by cases b <;> decide
  intro c hc
  have hword := List.all_eq_true.1 hwords _ h
  have hlower := List.all_eq_true.1 hword c.toLower (by simpa using ⟨c, hc, rfl⟩)
  rw [Bool.eq_false_iff]
  intro hblank
  rw [toLower_of_isBlank hblank, hblank] at hlower
  cases hlower

/-- The reader of flags accepts the words of the grammar, each as its truth value. -/
theorem flag?_eq_some_iff {text : String} {b : Bool} : flag? text = some b ↔ FlagWord text b := by
  -- No word is on both lists, so their order does not matter.
  have hdisjoint : ∀ w ∈ flagWords true, w ∉ flagWords false := by decide
  have hread : flag? text = some b ↔ String.ofList ((trim text.toList).map Char.toLower) ∈ flagWords b := by
    have hlower : (String.ofList (trim text.toList)).map Char.toLower =
        String.ofList ((trim text.toList).map Char.toLower) := by
      rw [← String.toList_inj]
      simp
    rw [flag?, hlower]
    generalize String.ofList ((trim text.toList).map Char.toLower) = word
    show (if word ∈ flagWords true then some true else if word ∈ flagWords false then some false else none) =
      some b ↔ word ∈ flagWords b
    by_cases htrue : word ∈ flagWords true
    · cases b <;> simp [htrue, hdisjoint word htrue]
    · by_cases hfalse : word ∈ flagWords false <;> cases b <;> simp [htrue, hfalse]
  rw [hread]
  constructor
  · exact fun h => ⟨_, h, amidBlanks_trim _⟩
  · rintro ⟨word, h, hamid⟩
    rwa [trim_of_amidBlanks (isBlank_eq_false_of_mem_flagWords h) hamid]

/-- A numeral has one number. -/
theorem Numeral.unique {text : String} {a b : UInt64} (ha : Numeral text a.toNat) (hb : Numeral text b.toNat) :
    a = b :=
  Option.some.inj ((number?_eq_some_iff.2 ha).symm.trans (number?_eq_some_iff.2 hb))

theorem FlagWord.unique {text : String} {a b : Bool} (ha : FlagWord text a) (hb : FlagWord text b) : a = b :=
  Option.some.inj ((flag?_eq_some_iff.2 ha).symm.trans (flag?_eq_some_iff.2 hb))

/-! ## Settings -/

/-- The value of a variable means a setting; an unset variable means the standard. -/
def Reads {α : Type} (means : String → α → Prop) (standard : α) : Option String → α → Prop
  | none, a => a = standard
  | some text, a => means text a

/-- A value that is read is determined by the text, if each text has one meaning. -/
theorem Reads.unique {α : Type} {means : String → α → Prop} {standard : α} {value value' : Option String} {a b : α}
    (ha : Reads means standard value a) (hb : Reads means standard value' b) (he : value = value')
    (hmeans : ∀ {text a b}, means text a → means text b → a = b) : a = b := by
  subst he
  cases value with
  | none => exact ha.trans hb.symm
  | some text => exact hmeans ha hb

/-- Each setting is what its variable means, by itself. -/
structure Configures (lookup : String → Option String) (cfg : Config) : Prop where
  trials : Reads (fun text n => Numeral text n.toNat) 100 (lookup "PROPCHECK_NUM_INST") cfg.trials
  maxSize : Reads (fun text n => Numeral text n.toNat) 100 (lookup "PROPCHECK_MAX_SIZE") cfg.maxSize
  retries : Reads (fun text n => Numeral text n.toNat) 10 (lookup "PROPCHECK_NUM_RETRIES") cfg.retries
  seed : Reads (fun text seed => ∃ n, seed = some n ∧ Numeral text n.toNat) none (lookup "PROPCHECK_SEED") cfg.seed
  quiet : Reads FlagWord false (lookup "PROPCHECK_QUIET") cfg.quiet
  trace : Reads (fun text trace => ∃ b, trace = ⟨b, b, b, b⟩ ∧ FlagWord text b) ⟨false, false, false, false⟩
    (lookup "PROPCHECK_TRACE") cfg.trace
  record : cfg.record = (lookup "PROPCHECK_EXPORT").isSome
  recordPath : Reads (fun text path => path = if text = "" then ".propcheck/observations.jsonl" else text)
    ".propcheck/observations.jsonl" (lookup "PROPCHECK_EXPORT") cfg.recordPath
  trials_ne_zero : cfg.trials ≠ 0

/-- A computation in two parts has a result if both parts have. -/
theorem bind_eq_ok_iff {ε α β : Type} {x : Except ε α} {f : α → Except ε β} {b : β} :
    x >>= f = .ok b ↔ ∃ a, x = .ok a ∧ f a = .ok b := by
  cases x with
  | error e => exact ⟨nofun, nofun⟩
  | ok a => simp [bind, Except.bind]

/-- A computation in two parts fails where the first of them does. -/
theorem bind_eq_error_iff {ε α β : Type} {x : Except ε α} {f : α → Except ε β} {e : ε} :
    x >>= f = .error e ↔ x = .error e ∨ ∃ a, x = .ok a ∧ f a = .error e := by
  cases x with
  | error e' => simp [bind, Except.bind]
  | ok a => simp [bind, Except.bind]

section

variable {lookup : String → Option String} {name : String}

/-- What is read from a variable that holds a number. -/
theorem numberOf_eq_ok_iff {read : Option UInt64} :
    numberOf lookup name = .ok read ↔
      Reads (fun text read => ∃ n, read = some n ∧ Numeral text n.toNat) none (lookup name) read := by
  unfold numberOf
  cases lookup name with
  | none => simp [Reads, eq_comm]
  | some text =>
    simp only [Reads, ← number?_eq_some_iff]
    cases number? text <;> simp [eq_comm]

/-- What is read from a variable that holds a flag. -/
theorem flagOf_eq_ok_iff {b : Bool} : flagOf lookup name = .ok b ↔ Reads FlagWord false (lookup name) b := by
  unfold flagOf
  cases lookup name with
  | none => simp [Reads, eq_comm]
  | some text =>
    simp only [Reads, ← flag?_eq_some_iff]
    cases flag? text <;> simp

/-- A number with a standard is read as the number or replaced by the standard. -/
theorem reads_number_iff {standard n : UInt64} :
    Reads (fun text n => Numeral text n.toNat) standard (lookup name) n ↔
      ∃ read, numberOf lookup name = .ok read ∧ n = read.getD standard := by
  simp only [numberOf_eq_ok_iff]
  cases lookup name with
  | none => simp [Reads]
  | some text =>
    simp only [Reads]
    constructor
    · exact fun h => ⟨some n, ⟨n, rfl, h⟩, rfl⟩
    · rintro ⟨-, ⟨n, rfl, h⟩, rfl⟩
      exact h

/-- All toggles are those of one flag. -/
theorem reads_trace_iff {trace : TraceToggles} :
    Reads (fun text trace => ∃ b, trace = ⟨b, b, b, b⟩ ∧ FlagWord text b) ⟨false, false, false, false⟩
      (lookup name) trace ↔
      ∃ b, flagOf lookup name = .ok b ∧ trace = if b then .all else {} := by
  -- All four toggles follow the one flag.
  have htoggles (b : Bool) : (if b then TraceToggles.all else {}) = ⟨b, b, b, b⟩ := by cases b <;> rfl
  simp only [flagOf_eq_ok_iff, htoggles]
  cases lookup name with
  | none => simp [Reads]
  | some text =>
    simp only [Reads]
    exact exists_congr fun b => And.comm

end

/-- The one fault of a configuration that has been read is to have no trials. -/
theorem validate_eq_error_iff {cfg : Config} {fault : ConfigFault} :
    cfg.validate = .error fault ↔ cfg.trials = 0 ∧ fault = .noTrials := by
  unfold validate
  split <;> simp_all [eq_comm]

/-- The configuration that is read is the one that the variables describe. -/
theorem ofLookup_eq_ok_iff {lookup : String → Option String} {cfg : Config} :
    ofLookup lookup = .ok cfg ↔ Configures lookup cfg := by
  unfold ofLookup
  simp only [bind_eq_ok_iff]
  constructor
  · -- What has been read in turn is what the configuration holds, field by field.
    rintro ⟨trials, htrials, maxSize, hmaxSize, retries, hretries, seed, hseed, quiet, hquiet, traced, htraced,
      _, hvalid, hcfg⟩
    cases hcfg
    exact {
      trials := reads_number_iff.2 ⟨trials, htrials, rfl⟩
      maxSize := reads_number_iff.2 ⟨maxSize, hmaxSize, rfl⟩
      retries := reads_number_iff.2 ⟨retries, hretries, rfl⟩
      seed := numberOf_eq_ok_iff.1 hseed
      quiet := flagOf_eq_ok_iff.1 hquiet
      trace := reads_trace_iff.2 ⟨traced, htraced, rfl⟩
      record := rfl
      recordPath := by
        cases lookup "PROPCHECK_EXPORT" with
        | none => rfl
        | some path => rfl
      trials_ne_zero := validate_eq_ok_iff.1 hvalid }
  · intro h
    -- Each field says what its variable was read as, before the default stands in for a missing one.
    obtain ⟨trials, htrials, htrials'⟩ := reads_number_iff.1 h.trials
    obtain ⟨maxSize, hmaxSize, hmaxSize'⟩ := reads_number_iff.1 h.maxSize
    obtain ⟨retries, hretries, hretries'⟩ := reads_number_iff.1 h.retries
    obtain ⟨traced, htraced, htraced'⟩ := reads_trace_iff.1 h.trace
    have hpath : cfg.recordPath = if (lookup "PROPCHECK_EXPORT").getD "" = "" then ".propcheck/observations.jsonl"
        else (lookup "PROPCHECK_EXPORT").getD "" := by
      have hread := h.recordPath
      cases hset : lookup "PROPCHECK_EXPORT" <;> rw [hset] at hread <;> exact hread
    refine ⟨trials, htrials, maxSize, hmaxSize, retries, hretries, cfg.seed, numberOf_eq_ok_iff.2 h.seed,
      cfg.quiet, flagOf_eq_ok_iff.2 h.quiet, traced, htraced, (), ?_, ?_⟩
    · exact validate_eq_ok_iff.2 (htrials' ▸ h.trials_ne_zero)
    · rw [← htrials', ← hmaxSize', ← hretries', ← htraced', ← h.record, ← hpath]
      rfl

/-! ## Faults -/

/-- What the values of a variable have to be. -/
inductive Kind where
  /-- A number of 64 bits. -/
  | number
  /-- A yes or a no. -/
  | flag

namespace Kind

/-- The values that can be read. -/
def Accepts : Kind → String → Prop
  | number, text => ∃ n < 2 ^ 64, Numeral text n
  | flag, text => ∃ b, FlagWord text b

/-- The fault that is found with a variable and a value of it. -/
def fault : Kind → String → String → ConfigFault
  | number => .notANumber
  | flag => .notAFlag

/-- The words between the name and the value in a report. -/
def complaint : Kind → String
  | number => ": invalid value '"
  | flag => ": expected a boolean, got '"

/-- The message about a variable names it and quotes its value as it is, blanks included. -/
theorem message_fault (kind : Kind) (name text : String) :
    (kind.fault name text).message = name ++ kind.complaint ++ text ++ "'" := by
  cases kind <;> rfl

/-- A variable for a number accepts the texts that are read as one. -/
theorem number_accepts_iff {text : String} : number.Accepts text ↔ ∃ n, number? text = some n := by
  simp only [number?_eq_some_iff]
  constructor
  · rintro ⟨n, hn, h⟩
    exact ⟨UInt64.ofNat n, by rwa [UInt64.toNat_ofNat_of_lt' hn]⟩
  · rintro ⟨n, h⟩
    exact ⟨n.toNat, n.toNat_lt, h⟩

theorem flag_accepts_iff {text : String} : flag.Accepts text ↔ ∃ b, flag? text = some b := by
  simp only [flag?_eq_some_iff]
  rfl

end Kind

/-- A variable that is read, and what it is read as. -/
structure Variable where
  name : String
  kind : Kind

/-- The variables that can be at fault, in the order in which they are read. -/
def readingOrder : List Variable :=
  [⟨"PROPCHECK_NUM_INST", .number⟩, ⟨"PROPCHECK_MAX_SIZE", .number⟩, ⟨"PROPCHECK_NUM_RETRIES", .number⟩,
    ⟨"PROPCHECK_SEED", .number⟩, ⟨"PROPCHECK_QUIET", .flag⟩, ⟨"PROPCHECK_TRACE", .flag⟩]

/-- A variable that is set has a value that can be read. -/
def Variable.Readable (lookup : String → Option String) (v : Variable) : Prop :=
  ∀ text, lookup v.name = some text → v.kind.Accepts text

/-- The fault of the first variable whose value cannot be read, or, if all can be, of a number of trials that is
    zero. -/
inductive Refuses (lookup : String → Option String) : ConfigFault → Prop where
  | unreadable {before after : List Variable} {v : Variable} {text : String}
      (order : readingOrder = before ++ v :: after) (readable : ∀ u ∈ before, u.Readable lookup)
      (set : lookup v.name = some text) (bad : ¬v.kind.Accepts text) : Refuses lookup (v.kind.fault v.name text)
  | noTrials {text : String} (readable : ∀ u ∈ readingOrder, u.Readable lookup)
      (set : lookup "PROPCHECK_NUM_INST" = some text) (zero : Numeral text 0) : Refuses lookup .noTrials

section

variable {lookup : String → Option String} {name : String} {fault : ConfigFault}

/-- What a computation finds fault with is a value of a variable that cannot be read. -/
def Variable.FaultsIn {α : Type} (lookup : String → Option String) (v : Variable) (x : Except ConfigFault α) : Prop :=
  ∀ fault, x = .error fault ↔
    ∃ text, lookup v.name = some text ∧ ¬v.kind.Accepts text ∧ fault = v.kind.fault v.name text

/-- Reading a number finds fault with the variable that holds it, or with none. -/
theorem faultsIn_numberOf : Variable.FaultsIn lookup ⟨name, .number⟩ (numberOf lookup name) := by
  intro fault
  unfold numberOf
  simp only [Kind.number_accepts_iff, Kind.fault]
  cases lookup name with
  | none => simp
  | some text => cases hread : number? text <;> simp [hread, eq_comm]

theorem faultsIn_flagOf : Variable.FaultsIn lookup ⟨name, .flag⟩ (flagOf lookup name) := by
  intro fault
  unfold flagOf
  simp only [Kind.flag_accepts_iff, Kind.fault]
  cases lookup name with
  | none => simp
  | some text => cases hread : flag? text <;> simp [hread, eq_comm]

namespace Variable.FaultsIn

variable {α : Type} {v : Variable} {x : Except ConfigFault α}

/-- A variable from which a value was read is readable. -/
theorem readable (hx : v.FaultsIn lookup x) {a : α} (h : x = .ok a) : v.Readable lookup := by
  intro text hset
  by_contra hbad
  have herror := (hx _).2 ⟨text, hset, hbad, rfl⟩
  rw [h] at herror
  cases herror

/-- Reading one variable more is at fault, or the variable is read and any fault is behind it. -/
theorem refuses_or {β : Type} {before after : List Variable} {f : α → Except ConfigFault β}
    (hx : v.FaultsIn lookup x) (readable : ∀ u ∈ before, u.Readable lookup)
    (order : readingOrder = before ++ v :: after) (h : x >>= f = .error fault) :
    Refuses lookup fault ∨ (∀ u ∈ before ++ [v], u.Readable lookup) ∧ ∃ a, x = .ok a ∧ f a = .error fault := by
  -- The variable is the first that cannot be read, or it joins those that can.
  obtain h | ⟨a, hread, h⟩ := bind_eq_error_iff.1 h
  · obtain ⟨text, hset, hbad, rfl⟩ := (hx fault).1 h
    exact .inl (.unreadable order readable hset hbad)
  · have hreadable := hx.readable hread
    exact .inr ⟨List.forall_mem_append.2 ⟨readable, List.forall_mem_singleton.2 hreadable⟩, a, hread, h⟩

end Variable.FaultsIn

/-- A number of trials that is zero has been read from a numeral of zero. -/
theorem exists_numeral_zero {read : Option UInt64} (h : numberOf lookup name = .ok read)
    (hzero : read.getD 100 = 0) : ∃ text, lookup name = some text ∧ Numeral text 0 := by
  -- The default is not zero, so the zero has been read.
  have hread := numberOf_eq_ok_iff.1 h
  cases hset : lookup name with
  | none =>
    rw [hset] at hread
    subst hread
    cases hzero
  | some text =>
    rw [hset] at hread
    obtain ⟨n, rfl, hnumeral⟩ := hread
    subst hzero
    exact ⟨text, rfl, hnumeral⟩

/-- The settings are refused for the first fault that there is. -/
theorem refuses_of_ofLookup_eq_error (h : ofLookup lookup = .error fault) : Refuses lookup fault := by
  unfold ofLookup at h
  have hread : ∀ u ∈ ([] : List Variable), u.Readable lookup := nofun
  obtain h | ⟨hread, trials, htrials, h⟩ := faultsIn_numberOf.refuses_or hread rfl h
  · exact h
  obtain h | ⟨hread, maxSize, -, h⟩ := faultsIn_numberOf.refuses_or hread rfl h
  · exact h
  obtain h | ⟨hread, retries, -, h⟩ := faultsIn_numberOf.refuses_or hread rfl h
  · exact h
  obtain h | ⟨hread, seed, -, h⟩ := faultsIn_numberOf.refuses_or hread rfl h
  · exact h
  obtain h | ⟨hread, quiet, -, h⟩ := faultsIn_flagOf.refuses_or hread rfl h
  · exact h
  obtain h | ⟨hread, traced, -, h⟩ := faultsIn_flagOf.refuses_or hread rfl h
  · exact h
  -- All variables are read, so it is the number of trials that is at fault.
  obtain h | ⟨-, -, h⟩ := bind_eq_error_iff.1 h
  · obtain ⟨hzero, rfl⟩ := validate_eq_error_iff.1 h
    obtain ⟨text, hset, hnumeral⟩ := exists_numeral_zero htrials hzero
    exact .noTrials hread hset hnumeral
  · cases h

/-- What settings have been made of can be read. -/
theorem readable_of_ofLookup_eq_ok {cfg : Config} (h : ofLookup lookup = .ok cfg) :
    ∀ v ∈ readingOrder, v.Readable lookup := by
  unfold ofLookup at h
  simp only [bind_eq_ok_iff] at h
  obtain ⟨trials, htrials, maxSize, hmaxSize, retries, hretries, seed, hseed, quiet, hquiet, traced, htraced, -⟩ := h
  -- Reading goes on only after a variable that could be read, so at its end all of them could.
  simp only [readingOrder, List.forall_mem_cons, List.not_mem_nil, false_implies, implies_true, and_true]
  exact ⟨faultsIn_numberOf.readable htrials, faultsIn_numberOf.readable hmaxSize,
    faultsIn_numberOf.readable hretries, faultsIn_numberOf.readable hseed, faultsIn_flagOf.readable hquiet,
    faultsIn_flagOf.readable htraced⟩

/-- What comes first in a list in violation of a property is one element. -/
theorem eq_of_first {α : Type} {P : α → Prop} {before before' after after' : List α} {a a' : α}
    (h : before ++ a :: after = before' ++ a' :: after') (hbefore : ∀ b ∈ before, P b)
    (hbefore' : ∀ b ∈ before', P b) (ha : ¬P a) (ha' : ¬P a') : a = a' := by
  -- Both prefixes are consumed in step, and neither can pass the first offender of the other.
  induction before generalizing before' with
  | nil =>
    cases before' with
    | nil => exact (List.cons.inj h).1
    | cons b before' =>
      rw [(List.cons.inj h).1] at ha
      exact absurd (hbefore' b List.mem_cons_self) ha
  | cons b before ih =>
    cases before' with
    | nil =>
      rw [← (List.cons.inj h).1] at ha'
      exact absurd (hbefore b List.mem_cons_self) ha'
    | cons b' before' =>
      rw [List.forall_mem_cons] at hbefore hbefore'
      exact ih (List.cons.inj h).2 hbefore.2 hbefore'.2

/-- A variable that is set to a text that it does not accept is not readable. -/
theorem Variable.not_readable {v : Variable} {text : String} (set : lookup v.name = some text)
    (bad : ¬v.kind.Accepts text) : ¬v.Readable lookup :=
  fun h => bad (h text set)

/-- A variable that stands between others in the order of reading is one of those that are read. -/
theorem mem_readingOrder {before after : List Variable} {v : Variable} (order : readingOrder = before ++ v :: after) :
    v ∈ readingOrder := by
  rw [order]
  exact List.mem_append_right _ List.mem_cons_self

/-- There is one fault at most that settings are refused for. -/
theorem Refuses.unique {fault fault' : ConfigFault} (h : Refuses lookup fault) (h' : Refuses lookup fault') :
    fault = fault' := by
  cases h with
  | unreadable order readable set bad =>
    have hbad := Variable.not_readable set bad
    cases h' with
    | unreadable order' readable' set' bad' =>
      cases eq_of_first (order.symm.trans order') readable readable' hbad (Variable.not_readable set' bad')
      cases set.symm.trans set'
      rfl
    -- An unreadable variable is refused before the number of trials is looked at.
    | noTrials readable' => exact absurd (readable' _ (mem_readingOrder order)) hbad
  | noTrials readable =>
    cases h' with
    | unreadable order' _ set' bad' =>
      exact absurd (readable _ (mem_readingOrder order')) (Variable.not_readable set' bad')
    | noTrials => rfl

/-- If all variables can be read and there are trials, nothing is refused. -/
theorem not_refuses (hread : ∀ v ∈ readingOrder, v.Readable lookup)
    (hpositive : ∀ text, lookup "PROPCHECK_NUM_INST" = some text → ¬Numeral text 0) : ¬Refuses lookup fault := by
  intro h
  cases h with
  | unreadable order _ set bad => exact Variable.not_readable set bad (hread _ (mem_readingOrder order))
  | noTrials _ set zero => exact hpositive _ set zero

/-- The settings are accepted if every variable that is set can be read, and the number of trials is not zero. -/
theorem exists_ofLookup_eq_ok_iff :
    (∃ cfg, ofLookup lookup = .ok cfg) ↔
      (∀ v ∈ readingOrder, v.Readable lookup) ∧
        ∀ text, lookup "PROPCHECK_NUM_INST" = some text → ¬Numeral text 0 := by
  constructor
  · rintro ⟨cfg, hcfg⟩
    refine ⟨readable_of_ofLookup_eq_ok hcfg, fun text hset hzero => ?_⟩
    have hconf := ofLookup_eq_ok_iff.1 hcfg
    have htrials := hconf.trials
    rw [hset] at htrials
    exact hconf.trials_ne_zero (Numeral.unique (b := 0) htrials hzero)
  · rintro ⟨hread, hpositive⟩
    -- Reading ends either way, and each fault has a reason, of which there is none here.
    cases hcfg : ofLookup lookup with
    | ok cfg => exact ⟨cfg, rfl⟩
    | error fault => exact absurd (refuses_of_ofLookup_eq_error hcfg) (not_refuses hread hpositive)

/-- The settings are refused for the first fault, if there is one. -/
theorem ofLookup_eq_error_iff : ofLookup lookup = .error fault ↔ Refuses lookup fault := by
  refine ⟨refuses_of_ofLookup_eq_error, fun h => ?_⟩
  cases hcfg : ofLookup lookup with
  -- What is refused has one reason, and what is accepted has none.
  | error fault' => rw [h.unique (refuses_of_ofLookup_eq_error hcfg)]
  | ok cfg =>
    obtain ⟨hread, hpositive⟩ := exists_ofLookup_eq_ok_iff.1 ⟨cfg, hcfg⟩
    exact absurd h (not_refuses hread hpositive)

end

/-! ## Settings by variable -/

/-- Each setting is the same under both sets of variables if the variable that it depends on is. -/
structure AgreesOn (lookup lookup' : String → Option String) (cfg cfg' : Config) : Prop where
  trials : lookup "PROPCHECK_NUM_INST" = lookup' "PROPCHECK_NUM_INST" → cfg.trials = cfg'.trials
  maxSize : lookup "PROPCHECK_MAX_SIZE" = lookup' "PROPCHECK_MAX_SIZE" → cfg.maxSize = cfg'.maxSize
  retries : lookup "PROPCHECK_NUM_RETRIES" = lookup' "PROPCHECK_NUM_RETRIES" → cfg.retries = cfg'.retries
  seed : lookup "PROPCHECK_SEED" = lookup' "PROPCHECK_SEED" → cfg.seed = cfg'.seed
  quiet : lookup "PROPCHECK_QUIET" = lookup' "PROPCHECK_QUIET" → cfg.quiet = cfg'.quiet
  trace : lookup "PROPCHECK_TRACE" = lookup' "PROPCHECK_TRACE" → cfg.trace = cfg'.trace
  record : lookup "PROPCHECK_EXPORT" = lookup' "PROPCHECK_EXPORT" →
    cfg.record = cfg'.record ∧ cfg.recordPath = cfg'.recordPath

/-- No variable has an effect on the settings of another. -/
theorem Configures.agreesOn {lookup lookup' : String → Option String} {cfg cfg' : Config}
    (h : Configures lookup cfg) (h' : Configures lookup' cfg') : AgreesOn lookup lookup' cfg cfg' where
  trials he := h.trials.unique h'.trials he Numeral.unique
  maxSize he := h.maxSize.unique h'.maxSize he Numeral.unique
  retries he := h.retries.unique h'.retries he Numeral.unique
  seed he := by
    refine h.seed.unique h'.seed he ?_
    rintro text - - ⟨n, rfl, hn⟩ ⟨n', rfl, hn'⟩
    rw [hn.unique hn']
  quiet he := h.quiet.unique h'.quiet he FlagWord.unique
  trace he := by
    refine h.trace.unique h'.trace he ?_
    rintro text - - ⟨b, rfl, hb⟩ ⟨b', rfl, hb'⟩
    rw [hb.unique hb']
  record he := by
    refine ⟨?_, h.recordPath.unique h'.recordPath he fun hpath hpath' => hpath.trans hpath'.symm⟩
    rw [h.record, h'.record, he]

/-- A check that has trials does not find fault with its configuration. -/
theorem check_ne_configuration {σ τ : Type} (host : Host (StateM τ)) {cfg : Config} (htrials : cfg.trials ≠ 0)
    (p : Statement σ) (world : σ) (h : τ) (fault : ConfigFault) :
    (check host cfg p world h).1.1 ≠ .error (.configuration fault) := by
  rw [check_fst_eq htrials]
  split
  · nofun
  · split
    · -- What recording reports is a fault of a file or of a record.
      rename_i error _ herror
      intro hfault
      obtain rfl : error = .configuration fault := Except.error.inj hfault
      exact nomatch Observation.raises_append _ _ _ _ _ _ _ herror
    · nofun

/-! ## The grammar -/

/-- **What is accepted is the grammar.**  There are settings if all variables that are set can be read and the
    number of trials is not zero.  Then each setting is what its own variable means, and no check finds fault with
    them.  Otherwise the fault is that of the first variable that cannot be read, and the report has its name and
    its value as it stands. -/
theorem environment_accepts_grammar (lookup : String → Option String) :
    ((∃ cfg, ofLookup lookup = .ok cfg) ↔
      (∀ v ∈ readingOrder, v.Readable lookup) ∧
        ∀ text, lookup "PROPCHECK_NUM_INST" = some text → ¬Numeral text 0) ∧
    (∀ cfg, ofLookup lookup = .ok cfg →
      Configures lookup cfg ∧
      (∀ lookup' cfg', ofLookup lookup' = .ok cfg' → AgreesOn lookup lookup' cfg cfg') ∧
      ∀ (σ τ : Type) (host : Host (StateM τ)) (p : Statement σ) (world : σ) (h : τ) (fault : ConfigFault),
        (check host cfg p world h).1.1 ≠ .error (.configuration fault)) ∧
    (∀ fault, ofLookup lookup = .error fault ↔ Refuses lookup fault) ∧
    (∀ (v : Variable) (text : String), (CheckError.configuration (v.kind.fault v.name text)).message =
      "Configuration error: " ++ (v.name ++ v.kind.complaint ++ text ++ "'")) ∧
    (CheckError.configuration .noTrials).message =
      "Configuration error: " ++ "num_inst must be at least 1" := by
  refine ⟨exists_ofLookup_eq_ok_iff, fun cfg hcfg => ?_, fun fault => ofLookup_eq_error_iff, fun v text => ?_, rfl⟩
  · have hconf := ofLookup_eq_ok_iff.1 hcfg
    exact ⟨hconf, fun lookup' cfg' hcfg' => hconf.agreesOn (ofLookup_eq_ok_iff.1 hcfg'),
      fun σ τ host p world h fault => check_ne_configuration host hconf.trials_ne_zero p world h fault⟩
  · exact congrArg ("Configuration error: " ++ ·) (v.kind.message_fault v.name text)

/-- Three variables that can be read, beside none at all, and two that cannot, of which the first is reported. -/
theorem environment_accepts_grammar_lists :
    let readable : List (String × String) :=
      [("PROPCHECK_NUM_INST", "\u3000+25 "), ("PROPCHECK_QUIET", " YeS"), ("PROPCHECK_EXPORT", "")]
    let garbled : List (String × String) := [("PROPCHECK_QUIET", "maybe"), ("PROPCHECK_MAX_SIZE", " big")]
    let cfg : Config := { trials := 25, quiet := true, record := true }
    Configures (readable.lookup ·) cfg ∧ AgreesOn (readable.lookup ·) (fun _ => none) cfg {} ∧
      (check Host.simulated cfg (Statement.decided "1 = 1" true) () {}).1.1 ≠ .error (.configuration .noTrials) ∧
      Refuses (garbled.lookup ·) (.notANumber "PROPCHECK_MAX_SIZE" " big") := by
  intro readable garbled cfg
  have hcfg : ofLookup (readable.lookup ·) = .ok cfg := by cbv
  have hnone : ofLookup (fun _ => none) = .ok {} := by cbv
  have hfault : ofLookup (garbled.lookup ·) = .error (.notANumber "PROPCHECK_MAX_SIZE" " big") := by cbv
  obtain ⟨hconf, hagrees, hcheck⟩ := (environment_accepts_grammar (readable.lookup ·)).2.1 cfg hcfg
  exact ⟨hconf, hagrees _ _ hnone, hcheck _ _ _ _ _ _ _, ((environment_accepts_grammar _).2.2.1 _).1 hfault⟩

end Falsify.Config
