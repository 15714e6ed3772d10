import Falsify.Observation.Record
import Falsify.Proofs.Observation.Identifier
import Falsify.Proofs.Time.Timestamp
import Mathlib

/-!
# Observations read back

An observation is what is read from its line, and its line is a single one, whatever texts it holds.  So a file
of observations can be taken apart line by line.

## Key results

- `Json.fields?_ofMembers`: the fields of a record are the members it was written with.
- `Observation.ofJson?_toJson`: an observation is read from its JSON object.
- `linesOf_append`: what comes behind whole lines adds its own lines to them.
- `Observation.linesOf_lines`: observations make one line each.
- `Observation.readLine?_compact`: an observation is read from its line.
-/

namespace Falsify

/-! ## Records -/

/-- All keys of members that were made from texts are texts. -/
theorem Json.mapM_keyed (members : List (String × Json)) :
    (Json.keyed members).mapM (fun (key, value) => key.map (·, value)) = some members := by
  induction members with
  | nil => rfl
  | cons member members ih =>
    rw [show Json.keyed (member :: members) = (some member.1, member.2) :: Json.keyed members from rfl,
      List.mapM_cons, ih]
    rfl

/-- The fields of a record are its members, if no two of them have one name. -/
theorem Json.fields?_ofMembers {members : List (String × Json)} (hnodup : (members.map Prod.fst).Nodup) :
    (ofMembers members).fields? (members.map Prod.fst) = some members := by
  have hknown : ∀ m ∈ members, (members.map Prod.fst).contains m.1 = true := fun m hm =>
    List.contains_iff_mem.2 (List.mem_map_of_mem hm)
  rw [show ofMembers members = object (keyed members) from rfl, fields?]
  refine Text.bind_eq_some (mapM_keyed members) ?_
  dsimp only
  rw [List.filter_eq_self.2 hknown]
  exact Text.bind_eq_some (Text.guard_eq_some hnodup) rfl

theorem Status.ofJson?_name (s : Status) : Status.ofJson? (.ofText s.name) = some s := by
  cases s <;> rfl

theorem Json.word?_ofWord (w : UInt64) : (ofWord w).word? = some w := Text.word?_toString w

namespace Observation

/-- A record has nothing in it but words, texts and names. -/
theorem plain_toJson (o : Observation) : o.toJson.Plain := by
  refine .members fun m hm => ?_
  simp only [List.mem_cons, List.not_mem_nil, or_false] at hm
  rcases hm with rfl | rfl | rfl | rfl | rfl | rfl | rfl | rfl | rfl
  all_goals first | exact .text _ | exact .word _

/-- The members of the JSON object of an observation. -/
def members (o : Observation) : List (String × Json) :=
  [("type", .ofText o.kind), ("run_id", .ofText o.runId.text), ("property", .ofText o.property),
    ("status", .ofText o.status.name), ("representation", .ofText o.representation),
    ("timestamp", .ofText o.timestamp.text), ("trial", .ofWord o.trial), ("size", .ofWord o.size),
    ("attempts", .ofWord o.attempts)]

/-- The fields of a record are found under their names. -/
theorem fields?_toJson (o : Observation) : o.toJson.fields? fieldNames = some o.members := by
  have hnodup : (o.members.map Prod.fst).Nodup := show fieldNames.Nodup by decide
  exact Json.fields?_ofMembers hnodup

/-- An observation is read from its JSON object, if its time is one that there is. -/
theorem ofJson?_toJson {o : Observation} (h : o.timestamp.IsValid) : ofJson? o.toJson = some o := by
  rw [ofJson?, fields?_toJson]
  simp [Json.Fields.get?, members, List.lookup, Uuid.read?_text, Timestamp.read?_text h, Status.ofJson?_name,
    Json.word?_ofWord]

end Observation

/-! ## Lines -/

/-- The lines of a text, each without the line break that ends it; the last line may have none. -/
def linesOf : List Char → List (List Char)
  | [] => []
  | c :: text =>
    if c = '\n' then [] :: linesOf text
    else match linesOf text with
      | [] => [[c]]
      | line :: lines => (c :: line) :: lines

theorem linesOf_newline (text : List Char) : linesOf ('\n' :: text) = [] :: linesOf text := by
  rw [linesOf, if_pos rfl]

/-- A character that is no line break stands at the head of the first line. -/
theorem linesOf_cons {c : Char} (hc : c ≠ '\n') {text line : List Char} {lines : List (List Char)}
    (h : linesOf text = line :: lines) : linesOf (c :: text) = (c :: line) :: lines := by
  rw [linesOf, if_neg hc, h]

/-- A text that is not empty has a first line. -/
theorem exists_linesOf {text : List Char} (h : text ≠ []) : ∃ line lines, linesOf text = line :: lines := by
  obtain ⟨c, text, rfl⟩ := List.exists_cons_of_ne_nil h
  -- A break ends an empty line; any other character is in front of a line, if need be an empty one.
  by_cases hc : c = '\n'
  · exact ⟨[], linesOf text, by rw [hc, linesOf_newline]⟩
  · cases hlines : linesOf text with
    | nil => exact ⟨[c], [], by rw [linesOf, if_neg hc, hlines]⟩
    | cons line lines => exact ⟨c :: line, lines, linesOf_cons hc hlines⟩

/-- A line ends at the first line break. -/
theorem linesOf_append_newline {line : List Char} (hline : '\n' ∉ line) (text : List Char) :
    linesOf (line ++ '\n' :: text) = line :: linesOf text := by
  induction line with
  | nil => exact linesOf_newline text
  | cons c line ih =>
    rw [List.mem_cons, not_or] at hline
    exact linesOf_cons (Ne.symm hline.1) (ih hline.2)

/-- Behind a line break, lines are those of what is there. -/
theorem linesOf_append {old : List Char} (hold : old = [] ∨ old.getLast? = some '\n') (text : List Char) :
    linesOf (old ++ text) = linesOf old ++ linesOf text := by
  -- On what is there already, whose last line break is that of its tail unless it is the only character.
  induction old with
  | nil => rfl
  | cons c old ih =>
    by_cases hold' : old = []
    · -- The line break itself.
      subst hold'
      obtain rfl : c = '\n' := by simpa using hold
      exact linesOf_newline text
    · have hlast : old.getLast? = some '\n' := by
        obtain ⟨d, rest, rfl⟩ := List.exists_cons_of_ne_nil hold'
        simpa using hold
      have htail := ih (.inr hlast)
      by_cases hc : c = '\n'
      · subst hc
        rw [List.cons_append, linesOf_newline, linesOf_newline, htail]
        rfl
      · -- The character goes to the first line of the tail, which is there since the tail is not empty.
        obtain ⟨line, lines, hlines⟩ := exists_linesOf hold'
        rw [List.cons_append, linesOf_cons hc hlines, linesOf_cons hc (by rw [htail, hlines]; rfl)]
        rfl

namespace Observation

/-- The observation that a line of a file holds. -/
def readLine? (line : List Char) : Option Observation := Json.read? (String.ofList line) >>= ofJson?

/-- An observation is read from its line, if its time is one that there is. -/
theorem readLine?_compact {o : Observation} (h : o.timestamp.IsValid) : readLine? o.toJson.compact = some o := by
  have hread : Json.read? (String.ofList o.toJson.compact) = some o.toJson := Json.read?_text o.plain_toJson
  rw [readLine?, hread, Option.bind_eq_bind, Option.bind_some, ofJson?_toJson h]

/-- The lines of several observations begin with that of the first. -/
theorem lines_cons (o : Observation) (os : List Observation) :
    (lines (o :: os)).toList = o.toJson.compact ++ '\n' :: (lines os).toList := by
  rw [show lines (o :: os) = lines ([o] ++ os) from rfl, lines_append]
  simp [lines, line, Json.text]

/-- The lines of observations, each with the break that ends it. -/
theorem toList_lines (os : List Observation) :
    (lines os).toList = (os.map fun o => o.toJson.compact).flatMap fun line => line ++ ['\n'] := by
  induction os with
  | nil => rfl
  | cons o os ih => rw [lines_cons, ih, List.map_cons, List.flatMap_cons, List.append_assoc, List.singleton_append]

/-- Observations make as many lines, in their order. -/
theorem linesOf_lines (os : List Observation) :
    linesOf (lines os).toList = os.map fun o => o.toJson.compact := by
  induction os with
  | nil => rfl
  | cons o os ih =>
    -- A record has no break in its text, so the break behind it is the end of its line.
    have hline := o.plain_toJson.isVisible_compact.newline_notMem
    rw [lines_cons, linesOf_append_newline hline, ih, List.map_cons]

end Observation

end Falsify
