import Falsify.Json.Record
import Falsify.Proofs.Text.Numeral
import Mathlib.Data.Option.Basic
import Mathlib.Tactic.SplitIfs

/-!
# JSON reads back as it was written

The reader is the inverse of the writer on the values that records are made of: `Plain` ones, whose numbers
are 64-bit words and whose strings and keys are texts.  No other condition is put on the texts, which may
contain quotes, backslashes and control characters; none of these, and in particular no line break, is left
in what is written.

## Key results

- `stringBody?_escape`: a string reads back.
- `number?_toDigits`: a number reads back, as long as what stands behind it does not go on with it.
- `Plain.readsBack`: a value reads back, whatever stands behind it.
- `read?_text`: a value is what is read from its text.
- `Plain.isVisible_compact`: there are no control characters, so in particular no line breaks, in the text of a
  value.
-/

namespace Falsify.Json

open Text

/-! ## Strings -/

theorem hexValue?_hexDigit : ∀ n < 16, hexValue? (hexDigit n) = some n := by decide

/-- A character that needs no escape is read as it is. -/
theorem pieces?_cons {c : Char} (hquote : c ≠ '"') (hslash : c ≠ '\\') (hcontrol : 0x20 ≤ c.toNat)
    (rest : List Char) : pieces? (c :: rest) = (pieces? rest).map fun p => (.char c :: p.1, p.2) := by
  -- It neither ends the string nor begins an escape.
  rw [pieces?.eq_5 c rest (fun h => hquote h) (fun _ _ _ _ _ h _ => hslash h) (fun _ _ h _ => hslash h)]
  rw [guard_eq_some ⟨hslash, hcontrol⟩]
  cases pieces? rest <;> rfl

/-- A control character is read from its number. -/
theorem pieces?_control {c : Char} (h : c.toNat < 0x20) (rest : List Char) :
    pieces? ('\\' :: 'u' :: '0' :: '0' :: hexDigit (c.toNat / 16) :: hexDigit (c.toNat % 16) :: rest) =
      (pieces? rest).map fun p => (.char c :: p.1, p.2) := by
  have hzero : hexValue? '0' = some 0 := rfl
  have hhigh := hexValue?_hexDigit (c.toNat / 16) (by omega)
  have hlow := hexValue?_hexDigit (c.toNat % 16) (by omega)
  -- A control character has a code of two hexadecimal digits, and the two before them are zero.
  have hcode : ((0 * 16 + 0) * 16 + c.toNat / 16) * 16 + c.toNat % 16 = c.toNat := by omega
  have hpiece : Piece.ofCode c.toNat = .char c := by
    rw [Piece.ofCode, if_neg (by omega), Char.ofNat_toNat]
  rw [pieces?]
  simp only [hexValues?, hzero, hhigh, hlow, Option.bind_eq_bind, Option.bind_some, Option.pure_def, hcode,
    hpiece]
  cases pieces? rest <;> rfl

/-- A character is read from the way it is written inside a string. -/
theorem pieces?_escape (c : Char) (rest : List Char) :
    pieces? (escape c ++ rest) = (pieces? rest).map fun p => (.char c :: p.1, p.2) := by
  -- Every escape but the last two is a backslash and one letter.
  have hletter : ∀ letter, letter ≠ 'u' → unescape? letter = some c →
      pieces? ('\\' :: letter :: rest) = (pieces? rest).map fun p => (.char c :: p.1, p.2) := by
    intro letter hne hc
    rw [pieces?.eq_4 letter rest (fun _ _ _ _ _ h _ => hne h), hc]
    cases pieces? rest <;> rfl
  unfold escape
  split_ifs with hquote hslash hnewline hreturn htab hbackspace hfeed hcontrol
  · exact hletter '"' (by decide) (by rw [hquote]; rfl)
  · exact hletter '\\' (by decide) (by rw [hslash]; rfl)
  · exact hletter 'n' (by decide) (by rw [hnewline]; rfl)
  · exact hletter 'r' (by decide) (by rw [hreturn]; rfl)
  · exact hletter 't' (by decide) (by rw [htab]; rfl)
  · exact hletter 'b' (by decide) (by rw [← Char.ofNat_toNat c, hbackspace]; rfl)
  · exact hletter 'f' (by decide) (by rw [← Char.ofNat_toNat c, hfeed]; rfl)
  · exact pieces?_control hcontrol rest
  · exact pieces?_cons hquote hslash (by omega) rest

/-- The characters of a string are read up to its closing quote. -/
theorem pieces?_flatMap_escape (text rest : List Char) :
    pieces? (text.flatMap escape ++ '"' :: rest) = some (text.map .char, rest) := by
  induction text with
  | nil => rfl
  | cons c text ih =>
    rw [List.flatMap_cons, List.append_assoc, pieces?_escape, ih]
    rfl

/-- A text without broken pairs is the text of its characters. -/
theorem characters?_map_char (text : List Char) : characters? (text.map .char) = some text := by
  induction text with
  | nil => rfl
  | cons c text ih => rw [List.map_cons, characters?, ih]; rfl

/-- A string reads back as it was written. -/
theorem stringBody?_escape (text : String) (rest : List Char) :
    stringBody? (text.toList.flatMap escape ++ '"' :: rest) = some (some text, rest) := by
  simp [stringBody?, pieces?_flatMap_escape, characters?_map_char]

/-! ## Numbers -/

/-- What stands behind a number does not go on with it. -/
def EndsNumber (text : List Char) : Prop :=
  ∀ c ∈ text.head?, c.isDigit = false ∧ c ≠ '.' ∧ c ≠ 'e' ∧ c ≠ 'E'

theorem endsNumber_nil : EndsNumber [] := fun _ hc => nomatch hc

/-- So does a character that no number goes on with. -/
theorem endsNumber_cons {c : Char} (hc : c.isDigit = false ∧ c ≠ '.' ∧ c ≠ 'e' ∧ c ≠ 'E')
    (text : List Char) : EndsNumber (c :: text) := by
  intro d hd
  cases hd
  exact hc

section

variable {rest : List Char}

/-- The digits of a number are read as its whole part, and no more. -/
theorem wholePart?_toDigits (n : Nat) (hrest : EndsNumber rest) :
    wholePart? (Nat.toDigits 10 n ++ rest) = some (Nat.toDigits 10 n, rest) := by
  have hnoDigit : NoDigit rest := fun c hc => (hrest c hc).1
  -- The reader refuses zeros at the start, but for zero itself.
  have hlead : (Nat.toDigits 10 n).head? ≠ some '0' ∨ Nat.toDigits 10 n = ['0'] := by
    by_cases hzero : n = 0
    · exact .inr (by rw [hzero]; rfl)
    · exact .inl fun h => hzero (head?_toDigits h)
  have hdigits : digits? (Nat.toDigits 10 n ++ rest) = some (Nat.toDigits 10 n, rest) := by
    rw [digits?, takeWhile_isDigit_append isDigit_of_mem_toDigits hnoDigit,
      dropWhile_isDigit_append isDigit_of_mem_toDigits hnoDigit, if_neg Nat.toDigits_ne_nil]
  exact bind_eq_some hdigits (bind_eq_some (guard_eq_some hlead) rfl)

/-- Where a number has ended, it has no fraction. -/
theorem fraction?_eq (hrest : EndsNumber rest) : fraction? rest = some ([], rest) := by
  unfold fraction?
  split
  · exact absurd rfl (hrest '.' rfl).2.1
  · rfl

theorem exponent?_eq (hrest : EndsNumber rest) : exponent? rest = some ([], rest) := by
  unfold exponent?
  split
  · rename_i c text
    rw [if_neg fun h => h.elim (hrest c rfl).2.2.1 (hrest c rfl).2.2.2]
  · rfl

/-- A number reads back as it was written. -/
theorem number?_toDigits (n : Nat) (hrest : EndsNumber rest) :
    number? (Nat.toDigits 10 n ++ rest) = some (number (toString n), rest) := by
  have hunsigned : unsigned? (Nat.toDigits 10 n ++ rest) = some (Nat.toDigits 10 n, rest) := by
    simp [unsigned?, wholePart?_toDigits n hrest, fraction?_eq hrest, exponent?_eq hrest]
  unfold number?
  split
  · -- The first character is a digit, not a sign.
    rename_i text htext
    obtain ⟨c, digits, hdigits, hdigit⟩ := exists_cons_toDigits n
    rw [hdigits, List.cons_append, List.cons.injEq] at htext
    rw [htext.1] at hdigit
    exact absurd hdigit (by decide)
  · rw [hunsigned, Nat.toString_eq_ofList_toDigits]
    rfl

end

/-! ## Values -/

/-- The values that records are made of: their numbers are 64-bit words, and their strings and keys are
    texts. -/
inductive Plain : Json → Prop where
  | null : Plain null
  | bool (b : Bool) : Plain (bool b)
  | word (w : UInt64) : Plain (ofWord w)
  | text (text : String) : Plain (ofText text)
  | array {items : List Json} (h : ∀ item ∈ items, Plain item) : Plain (array items)
  | members {members : List (String × Json)} (h : ∀ m ∈ members, Plain m.2) : Plain (ofMembers members)

/-- A value is read from its compact text, with enough fuel and whatever stands behind it. -/
def ReadsBack (json : Json) : Prop :=
  ∀ fuel rest, json.compact.length ≤ fuel → EndsNumber rest →
    value? fuel (json.compact ++ rest) = some (json, rest)

/-- There is nothing to skip before a character that is no gap. -/
theorem skipGap_cons {c : Char} (h : isGap c = false) (text : List Char) : skipGap (c :: text) = c :: text :=
  List.dropWhile_cons_of_neg (by rw [h]; decide)

/-- The text of a word begins with a digit, and is its decimal numeral. -/
theorem exists_compact_ofWord (w : UInt64) :
    ∃ c text, (ofWord w).compact = c :: text ∧ c.isDigit = true ∧ c :: text = Nat.toDigits 10 w.toNat := by
  obtain ⟨c, digits, hdigits, hdigit⟩ := exists_cons_toDigits w.toNat
  refine ⟨c, digits, ?_, hdigit, hdigits.symm⟩
  rw [compact_ofWord, Nat.toString_eq_ofList_toDigits, String.toList_ofList, hdigits]

/-- A digit is none of the characters that other values begin with. -/
theorem digit_cases {c : Char} (h : c.isDigit = true) :
    isGap c = false ∧ c ≠ ']' ∧ c ≠ 'n' ∧ c ≠ 't' ∧ c ≠ 'f' ∧ c ≠ '"' ∧ c ≠ '[' ∧ c ≠ '\x7b' := by
  refine ⟨?_, ?_, ?_, ?_, ?_, ?_, ?_, ?_⟩
  · cases hgap : isGap c with
    | false => rfl
    | true =>
      simp only [isGap, Bool.or_eq_true, decide_eq_true_eq] at hgap
      rcases hgap with ((rfl | rfl) | rfl) | rfl <;> revert h <;> decide
  all_goals
    rintro rfl
    revert h
    decide

/-- The text of a value begins with neither a gap nor a closing bracket. -/
theorem Plain.exists_compact {json : Json} (h : Plain json) :
    ∃ c text, json.compact = c :: text ∧ isGap c = false ∧ c ≠ ']' := by
  cases h with
  | null => exact ⟨'n', _, by rw [compact], by decide, by decide⟩
  | bool b => cases b <;> exact ⟨_, _, by rw [compact], by decide, by decide⟩
  | word w =>
    obtain ⟨c, text, hcompact, hdigit, -⟩ := exists_compact_ofWord w
    exact ⟨c, text, hcompact, (digit_cases hdigit).1, (digit_cases hdigit).2.1⟩
  | text text => exact ⟨'"', _, by rw [compact_ofText]; rfl, by decide, by decide⟩
  | array items => exact ⟨'[', _, by rw [compact]; rfl, by decide, by decide⟩
  | members members => exact ⟨'\x7b', _, by rw [ofMembers, compact]; rfl, by decide, by decide⟩

/-! ### Atoms -/

theorem readsBack_null : ReadsBack null := by
  rintro (_ | fuel) rest hfuel -
  · simp [compact] at hfuel
  · rfl

theorem readsBack_bool (b : Bool) : ReadsBack (bool b) := by
  rintro (_ | fuel) rest hfuel -
  · cases b <;> simp [compact] at hfuel
  · cases b <;> rfl

theorem readsBack_ofWord (w : UInt64) : ReadsBack (ofWord w) := by
  obtain ⟨c, text, hcompact, hdigit, hdigits⟩ := exists_compact_ofWord w
  obtain ⟨hgap, -, hn, ht, hf, hquote, hbracket, hbrace⟩ := digit_cases hdigit
  rintro (_ | fuel) rest hfuel hrest
  · simp [hcompact] at hfuel
  · -- A digit at the start leaves nothing but a number.
    have hnumber : value? (fuel + 1) (c :: text ++ rest) = number? (c :: text ++ rest) := by
      rw [List.cons_append, value?, skipGap_cons hgap]
      split <;> simp_all
    rw [hcompact, hnumber, hdigits, number?_toDigits _ hrest]
    rfl

/-- Texts read back. -/
theorem readsBack_ofText (text : String) : ReadsBack (ofText text) := by
  rintro (_ | fuel) rest hfuel -
  · simp [compact_ofText, quote] at hfuel
  · rw [compact_ofText, quote, List.cons_append, List.cons_append, List.append_assoc, value?,
      skipGap_cons (by decide)]
    simp [stringBody?_escape, ofText]

/-! ### Arrays and objects -/

/-- Items that read back are read one after the other, up to the bracket at their end. -/
theorem itemList?_compactItems {items : List Json} (hne : items ≠ []) (hitems : ∀ item ∈ items, ReadsBack item)
    (fuel : Nat) (rest : List Char) (hfuel : (compactItems items).length < fuel) :
    itemList? fuel (compactItems items ++ ']' :: rest) = some (items, rest) := by
  -- On the items.  Every item is at least one character long, so the fuel lasts for the others.
  induction items generalizing fuel with
  | nil => exact absurd rfl hne
  | cons item items ih =>
    obtain ⟨fuel, rfl⟩ : ∃ k, fuel = k + 1 := ⟨fuel - 1, by omega⟩
    have hitem := hitems item List.mem_cons_self
    cases items with
    | nil =>
      rw [compactItems] at hfuel ⊢
      rw [itemList?, hitem fuel _ (by omega) (endsNumber_cons (by decide) rest)]
      rfl
    | cons next items =>
      rw [compactItems.eq_3 _ _ (by simp)] at hfuel ⊢
      simp only [List.length_append, List.length_cons] at hfuel
      have htail := ih (by simp) (fun i hi => hitems i (List.mem_cons_of_mem _ hi)) fuel (by omega)
      rw [List.append_assoc, List.cons_append, itemList?,
        hitem fuel _ (by omega) (endsNumber_cons (by decide) _)]
      simp [skipGap_cons, isGap, htail]

/-- A member is read up to what stands behind it. -/
theorem memberList?_member (key : String) {value : Json} (hvalue : ReadsBack value) {fuel : Nat}
    (hfuel : value.compact.length ≤ fuel) {rest : List Char} (hrest : EndsNumber rest) :
    memberList? (fuel + 1) (quote key ++ ':' :: (value.compact ++ rest)) =
      match skipGap rest with
      | ',' :: rest =>
        (memberList? fuel rest).map fun p => ((some key, value) :: p.1, p.2)
      | '\x7d' :: rest => some ([(some key, value)], rest)
      | _ => none := by
  rw [quote, List.cons_append, List.cons_append, List.append_assoc, memberList?, skipGap_cons (by decide)]
  simp only [List.cons_append, List.nil_append, stringBody?_escape, Option.bind_eq_bind, Option.bind_some]
  rw [skipGap_cons (by decide)]
  simp only [hvalue fuel rest hfuel hrest, Option.bind_some]
  -- Both sides look at what follows the value in the same way.
  generalize skipGap rest = after
  split
  · rename_i after
    show _ = (memberList? fuel after).map _
    cases memberList? fuel after <;> rfl
  · rfl
  · simp_all

/-- The members of an object, as the writer and the reader have them. -/
def keyed (members : List (String × Json)) : List (Option String × Json) :=
  members.map fun (key, value) => (some key, value)

/-- The text of several members: the first key and value, a comma and the text of the others. -/
theorem compactMembers_keyed_cons (key : String) (value : Json) {members : List (String × Json)}
    (hne : members ≠ []) :
    compactMembers (keyed ((key, value) :: members)) =
      quote key ++ ':' :: (value.compact ++ ',' :: compactMembers (keyed members)) := by
  cases members with
  | nil => exact absurd rfl hne
  | cons member members => simp [keyed, compactMembers]

theorem compactMembers_keyed_singleton (key : String) (value : Json) :
    compactMembers (keyed [(key, value)]) = quote key ++ ':' :: value.compact := rfl

/-- Members whose values read back are read one after the other, up to the brace at their end. -/
theorem memberList?_compactMembers {members : List (String × Json)} (hne : members ≠ [])
    (hmembers : ∀ m ∈ members, ReadsBack m.2) (fuel : Nat) (rest : List Char)
    (hfuel : (compactMembers (keyed members)).length < fuel) :
    memberList? fuel (compactMembers (keyed members) ++ '\x7d' :: rest) = some (keyed members, rest) := by
  induction members generalizing fuel with
  | nil => exact absurd rfl hne
  | cons member members ih =>
    obtain ⟨fuel, rfl⟩ : ∃ k, fuel = k + 1 := ⟨fuel - 1, by omega⟩
    obtain ⟨key, value⟩ := member
    have hvalue : ReadsBack value := hmembers (key, value) List.mem_cons_self
    -- Members are separated and not ended, so the last of them is read without a comma.
    by_cases hlast : members = []
    · subst hlast
      rw [compactMembers_keyed_singleton] at hfuel ⊢
      simp only [List.length_append, List.length_cons] at hfuel
      rw [List.append_assoc, List.cons_append,
        memberList?_member key hvalue (by omega) (endsNumber_cons (by decide) rest), skipGap_cons (by decide)]
      rfl
    · rw [compactMembers_keyed_cons key value hlast] at hfuel ⊢
      simp only [List.length_append, List.length_cons] at hfuel
      have htail := ih hlast (fun m hm => hmembers m (List.mem_cons_of_mem _ hm)) fuel (by omega)
      rw [List.append_assoc, List.cons_append, List.append_assoc, List.cons_append,
        memberList?_member key hvalue (by omega) (endsNumber_cons (by decide) _), skipGap_cons (by decide)]
      simp only [htail, Option.map_some]
      rfl

/-- An array that does not end at once has items. -/
theorem value?_array_cons {c : Char} (hgap : isGap c = false) (hbracket : c ≠ ']') (fuel : Nat)
    (text : List Char) :
    value? (fuel + 1) ('[' :: c :: text) = (itemList? fuel (c :: text)).map fun p => (array p.1, p.2) := by
  rw [value?, skipGap_cons (by decide)]
  simp only [skipGap_cons hgap]
  split
  · simp_all
  · cases itemList? fuel (c :: text) <;> rfl

/-- An object that does not end at once has members. -/
theorem value?_object_cons {c : Char} (hgap : isGap c = false) (hbrace : c ≠ '\x7d') (fuel : Nat)
    (text : List Char) :
    value? (fuel + 1) ('\x7b' :: c :: text) = (memberList? fuel (c :: text)).map fun p => (object p.1, p.2) := by
  rw [value?, skipGap_cons (by decide)]
  simp only [skipGap_cons hgap]
  split
  · simp_all
  · cases memberList? fuel (c :: text) <;> rfl

/-- An array of values that read back reads back. -/
theorem readsBack_array {items : List Json} (hplain : ∀ item ∈ items, Plain item)
    (hitems : ∀ item ∈ items, ReadsBack item) : ReadsBack (array items) := by
  rintro (_ | fuel) rest hfuel -
  · simp [compact] at hfuel
  · rw [compact] at hfuel ⊢
    simp only [List.length_append, List.length_cons, List.length_nil] at hfuel
    rw [List.cons_append, List.cons_append, List.append_assoc, List.singleton_append]
    cases items with
    | nil => rfl
    | cons item items =>
      -- The first item does not begin with a closing bracket, so it is not taken for the end.
      obtain ⟨c, text, hcompact, hgap, hbracket⟩ := (hplain item List.mem_cons_self).exists_compact
      obtain ⟨text', htext'⟩ : ∃ text', compactItems (item :: items) = c :: text' := by
        cases items with
        | nil => exact ⟨_, by rw [compactItems, hcompact]⟩
        | cons next items => exact ⟨_, by rw [compactItems.eq_3 _ _ (by simp), hcompact]; rfl⟩
      have hread := itemList?_compactItems (by simp) hitems fuel rest (by omega)
      rw [htext', List.cons_append] at hread ⊢
      rw [value?_array_cons hgap hbracket, hread]
      rfl

theorem readsBack_ofMembers {members : List (String × Json)} (hmembers : ∀ m ∈ members, ReadsBack m.2) :
    ReadsBack (ofMembers members) := by
  rintro (_ | fuel) rest hfuel -
  · simp [ofMembers, compact] at hfuel
  · rw [show ofMembers members = object (keyed members) from rfl, compact] at hfuel ⊢
    simp only [List.length_append, List.length_cons, List.length_nil] at hfuel
    rw [List.cons_append, List.cons_append, List.append_assoc, List.singleton_append]
    by_cases hne : members = []
    · subst hne
      rfl
    · -- The first member begins with a quote, so it is not taken for the end.
      obtain ⟨text, htext⟩ : ∃ text, compactMembers (keyed members) = '"' :: text := by
        obtain ⟨⟨key, value⟩, members, rfl⟩ := List.exists_cons_of_ne_nil hne
        by_cases hlast : members = []
        · subst hlast
          exact ⟨_, rfl⟩
        · exact ⟨_, by rw [compactMembers_keyed_cons key value hlast]; rfl⟩
      have hread := memberList?_compactMembers hne hmembers fuel rest (by omega)
      rw [htext, List.cons_append] at hread ⊢
      rw [value?_object_cons (by decide) (by decide), hread]
      rfl

/-- A value is read from its compact text. -/
theorem Plain.readsBack {json : Json} (h : Plain json) : ReadsBack json := by
  induction h with
  | null => exact readsBack_null
  | bool b => exact readsBack_bool b
  | word w => exact readsBack_ofWord w
  | text text => exact readsBack_ofText text
  | array h ih => exact readsBack_array h ih
  | members h ih => exact readsBack_ofMembers ih

/-- **JSON reads back.**  A value of the kind that records are made of is what is read from its text. -/
theorem read?_text {json : Json} (h : Plain json) : read? json.text = some json := by
  have hread := h.readsBack (2 * json.compact.length + 2) [] (by omega) endsNumber_nil
  rw [List.append_nil] at hread
  rw [read?, text, String.toList_ofList]
  exact bind_eq_some hread (bind_eq_some (guard_eq_some rfl) rfl)

/-! ## Line breaks -/

/-- No control character is in a text. -/
def IsVisible (text : List Char) : Prop := ∀ c ∈ text, 0x20 ≤ c.toNat

theorem IsVisible.append {s t : List Char} (hs : IsVisible s) (ht : IsVisible t) : IsVisible (s ++ t) :=
  fun c hc => (List.mem_append.1 hc).elim (hs c) (ht c)

theorem IsVisible.cons {c : Char} {t : List Char} (hc : 0x20 ≤ c.toNat) (ht : IsVisible t) :
    IsVisible (c :: t) :=
  fun d hd => (List.mem_cons.1 hd).elim (fun h => h ▸ hc) (ht d)

theorem isVisible_nil : IsVisible [] := fun _ hc => nomatch hc

/-- A text whose characters have all been looked at is visible. -/
theorem isVisible_of_all {t : List Char} (h : (t.all fun c => decide (0x20 ≤ c.toNat)) = true) : IsVisible t :=
  fun c hc => of_decide_eq_true (List.all_eq_true.1 h c hc)

/-- A visible text has no line break. -/
theorem IsVisible.newline_notMem {t : List Char} (ht : IsVisible t) : '\n' ∉ t :=
  fun hc => absurd (ht '\n' hc) (by decide)

theorem isVisible_toDigits (n : Nat) : IsVisible (Nat.toDigits 10 n) := by
  intro c hc
  have hdigit := toNat_of_isDigit (isDigit_of_mem_toDigits c hc)
  omega

theorem hexDigit_toNat_le : ∀ n < 16, 0x20 ≤ (hexDigit n).toNat := by decide

/-- Each character is visible once it has been escaped. -/
theorem isVisible_escape (c : Char) : IsVisible (escape c) := by
  -- What is escaped is exactly what is not visible, and each escape is made of what is.
  have hletter : ∀ letter : Char, 0x20 ≤ letter.toNat → IsVisible ['\\', letter] := fun letter h =>
    .cons (by decide) (.cons h isVisible_nil)
  unfold escape
  split_ifs with hquote hslash hnewline hreturn htab hbackspace hfeed hcontrol
  · exact hletter '"' (by decide)
  · exact hletter '\\' (by decide)
  · exact hletter 'n' (by decide)
  · exact hletter 'r' (by decide)
  · exact hletter 't' (by decide)
  · exact hletter 'b' (by decide)
  · exact hletter 'f' (by decide)
  · have hhigh := hexDigit_toNat_le (c.toNat / 16) (by omega)
    have hlow := hexDigit_toNat_le (c.toNat % 16) (by omega)
    intro d hd
    simp only [List.mem_cons, List.not_mem_nil, or_false] at hd
    rcases hd with rfl | rfl | rfl | rfl | rfl | rfl
    · decide
    · decide
    · decide
    · decide
    · exact hhigh
    · exact hlow
  · exact .cons (by omega) isVisible_nil

/-- So is every quoted text. -/
theorem isVisible_quote (text : String) : IsVisible (quote text) := by
  refine .append (.cons (by decide) fun c hc => ?_) (.cons (by decide) isVisible_nil)
  obtain ⟨d, -, hd⟩ := List.mem_flatMap.1 hc
  exact isVisible_escape d c hd

/-- Visible items make a visible list. -/
theorem isVisible_compactItems {items : List Json} (h : ∀ item ∈ items, IsVisible item.compact) :
    IsVisible (compactItems items) := by
  induction items with
  | nil => exact isVisible_nil
  | cons item items ih =>
    have hitem := h item List.mem_cons_self
    have hitems := ih fun i hi => h i (List.mem_cons_of_mem _ hi)
    cases items with
    | nil => exact hitem
    | cons next items => exact hitem.append (.cons (by decide) hitems)

/-- Members with visible values make a visible list. -/
theorem isVisible_compactMembers {members : List (String × Json)} (h : ∀ m ∈ members, IsVisible m.2.compact) :
    IsVisible (compactMembers (keyed members)) := by
  induction members with
  | nil => exact isVisible_nil
  | cons member members ih =>
    obtain ⟨key, value⟩ := member
    have hvalue : IsVisible value.compact := h (key, value) List.mem_cons_self
    have hmembers := ih fun m hm => h m (List.mem_cons_of_mem _ hm)
    by_cases hlast : members = []
    · subst hlast
      exact (isVisible_quote key).append (.cons (by decide) hvalue)
    · rw [compactMembers_keyed_cons key value hlast]
      exact (isVisible_quote key).append (.cons (by decide) (hvalue.append (.cons (by decide) hmembers)))

/-- There are no control characters in the text of a value. -/
theorem Plain.isVisible_compact {json : Json} (h : Plain json) : IsVisible json.compact := by
  induction h with
  | null => exact isVisible_of_all rfl
  | bool b => cases b <;> exact isVisible_of_all rfl
  | word w =>
    rw [compact_ofWord, Nat.toString_eq_ofList_toDigits, String.toList_ofList]
    exact isVisible_toDigits w.toNat
  | text text =>
    rw [compact_ofText]
    exact isVisible_quote text
  -- A container adds marks to what its parts are, all of them visible.
  | array h ih =>
    rw [compact]
    exact .append (.cons (by decide) (isVisible_compactItems ih)) (.cons (by decide) isVisible_nil)
  | @members members h ih =>
    rw [show ofMembers members = object (keyed members) from rfl, compact]
    exact .append (.cons (by decide) (isVisible_compactMembers ih)) (.cons (by decide) isVisible_nil)

end Falsify.Json
