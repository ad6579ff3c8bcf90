import Mathlib.Data.List.Basic
import JsonSchema.Json.Printer

/-!
# `JsonSchema.Proofs.Json.Layout` — what a value looks like over several lines

The layout is described apart from the printer and from the reader. Each element or member stands on a
line of its own, two spaces further in than the brackets around it, and empty containers are closed at
once. Inside quotes a character stands for itself unless it is a quote, a backslash or below U+0020;
one of these is written by an escape.

The printer writes values in this layout (`laid_pretty`). That all text in this layout is read back is
shown in `JsonSchema.Proofs.Json.ReadBack`.

## Contents
- **Quotes.** `MustEscape`, `Escape`, `Spelled`, and `spelled_quoted`: the printer spells as it should.
- **Lines.** `lines`, `Laid`.
- **Printing.** `Value.Worded` (values without numbers), `laid_pretty`.
-/

namespace JsonSchema.Json

/-! ## Quotes -/

/-- A character that cannot stand for itself inside quotes. -/
def MustEscape (c : Char) : Prop := c = '"' ∨ c = '\\' ∨ c.toNat < 0x20

/-- The escapes of a character: a letter after a backslash, or its number in hexadecimal digits. -/
inductive Escape (c : Char) : List Char → Prop where
  | letter {d : Char} (h : Quoted.shortEscape? d = some c) : Escape c ['\\', d]
  | number {high low : Char} (hhigh : Text.digit? 16 high = some (c.toNat / 16))
      (hlow : Text.digit? 16 low = some (c.toNat % 16)) : Escape c ['\\', 'u', '0', '0', high, low]

/-- How a text is spelled inside quotes. -/
inductive Spelled : List Char → List Char → Prop where
  | nil : Spelled [] []
  | plain {c : Char} {cs out : List Char} (h : ¬MustEscape c) (rest : Spelled cs out) :
      Spelled (c :: cs) (c :: out)
  | escaped {c : Char} {cs e out : List Char} (h : MustEscape c) (he : Escape c e)
      (rest : Spelled cs out) : Spelled (c :: cs) (e ++ out)

theorem digit?_hexChar {n : Nat} (h : n < 16) : Text.digit? 16 (hexChar n) = some n := by
  have hall : ∀ n : Fin 16, Text.digit? 16 (hexChar n.val) = some n.val := by decide
  exact hall ⟨n, h⟩

/-- What has to be escaped is escaped. -/
theorem escape_escapeChar {c : Char} (h : MustEscape c) : Escape c (escapeChar c) := by
  unfold escapeChar
  split_ifs with hquote hslash hb hf hn hr ht hlow
  · exact .letter (by rw [hquote]; rfl)
  · exact .letter (by rw [hslash]; rfl)
  · exact .letter (by rw [hb]; rfl)
  · exact .letter (by rw [hf]; rfl)
  · exact .letter (by rw [hn]; rfl)
  · exact .letter (by rw [hr]; rfl)
  · exact .letter (by rw [ht]; rfl)
  · exact .number (digit?_hexChar (by omega)) (digit?_hexChar (Nat.mod_lt _ (by decide)))
  · rcases h with hq | hs | hl
    · exact absurd hq hquote
    · exact absurd hs hslash
    · exact absurd hl hlow

/-- Nothing else is. -/
theorem escapeChar_of_not {c : Char} (h : ¬MustEscape c) : escapeChar c = [c] := by
  have hlow : ¬c.toNat < 0x20 := fun hl => h (.inr (.inr hl))
  -- the characters with an escape of their own lie below U+0020 as well
  have hne : ∀ d : Char, d.toNat < 0x20 → ¬c = d := fun d hd heq => hlow (heq ▸ hd)
  unfold escapeChar
  rw [if_neg fun hq => h (.inl hq), if_neg fun hs => h (.inr (.inl hs)), if_neg (hne _ (by decide)),
    if_neg (hne _ (by decide)), if_neg (hne _ (by decide)), if_neg (hne _ (by decide)),
    if_neg (hne _ (by decide)), if_neg hlow]

/-- **The printer spells a text with the escapes that are needed.** -/
theorem spelled_quoted (cs : List Char) : Spelled cs (cs.flatMap escapeChar) := by
  induction cs with
  | nil => exact .nil
  | cons c cs ih =>
      rw [List.flatMap_cons]
      by_cases h : MustEscape c
      · exact .escaped h (escape_escapeChar h) ih
      · rw [escapeChar_of_not h]
        exact .plain h ih

/-! ## Lines -/

open Value (newline)

/-- Texts with commas between them, each on a new line at a level. -/
def lines (level : Nat) (texts : List (List Char)) : List Char :=
  List.intercalate [','] (texts.map (newline level ++ ·))

/-- A member of an object together with the text of its value and its name as it is spelled. -/
structure WrittenMember where
  name : String
  value : Value
  spelled : List Char
  text : List Char

namespace WrittenMember

/-- The member as a name and a value. -/
def member (w : WrittenMember) : String × Value := (w.name, w.value)

/-- The member on its line. -/
def line (w : WrittenMember) : List Char := '"' :: w.spelled ++ '"' :: ':' :: ' ' :: w.text

end WrittenMember

/-- The text of a value whose brackets stand at a level. Numbers are left out. -/
inductive Laid : Nat → Value → List Char → Prop where
  | null {level : Nat} : Laid level .null ['n', 'u', 'l', 'l']
  | true {level : Nat} : Laid level (.bool true) ['t', 'r', 'u', 'e']
  | false {level : Nat} : Laid level (.bool false) ['f', 'a', 'l', 's', 'e']
  | string {level : Nat} {text : String} {out : List Char} (h : Spelled text.toList out) :
      Laid level (.string text) ('"' :: out ++ ['"'])
  | emptyArray {level : Nat} : Laid level (.array []) ['[', ']']
  | array {level : Nat} {rows : List (Value × List Char)} (hne : rows ≠ [])
      (each : ∀ r ∈ rows, Laid (level + 1) r.1 r.2) :
      Laid level (.array (rows.map Prod.fst))
        ('[' :: lines (level + 1) (rows.map Prod.snd) ++ newline level ++ [']'])
  | emptyObject {level : Nat} : Laid level (.object []) ['{', '}']
  | object {level : Nat} {rows : List WrittenMember} (hne : rows ≠ [])
      (names : ∀ w ∈ rows, Spelled w.name.toList w.spelled)
      (each : ∀ w ∈ rows, Laid (level + 1) w.value w.text) :
      Laid level (.object (rows.map WrittenMember.member))
        ('{' :: lines (level + 1) (rows.map WrittenMember.line) ++ newline level ++ ['}'])

end JsonSchema.Json

namespace JsonSchema.Value

open Json (Laid WrittenMember lines quote escapeChar)

/-! ## Printing -/

/-- There are no numbers in a value, and its containers nest no deeper than a number of levels. -/
inductive Worded : Nat → Value → Prop where
  | null {depth : Nat} : Worded depth .null
  | bool {depth : Nat} (flag : Bool) : Worded depth (.bool flag)
  | string {depth : Nat} (text : String) : Worded depth (.string text)
  | array {depth : Nat} {elements : List Value} (each : ∀ e ∈ elements, Worded depth e) :
      Worded (depth + 1) (.array elements)
  | object {depth : Nat} {members : Members} (each : ∀ m ∈ members, Worded depth m.2) :
      Worded (depth + 1) (.object members)

theorem prettyElements_eq (level : Nat) (elements : List Value) :
    prettyElements level elements = lines level (elements.map (prettyChars level)) := by
  induction elements with
  | nil => rfl
  | cons v rest ih =>
      cases rest with
      | nil => exact (List.intercalate_singleton ..).symm
      | cons w rest =>
          have hcons : lines level ((v :: w :: rest).map (prettyChars level)) =
              newline level ++ prettyChars level v ++ [','] ++
                lines level ((w :: rest).map (prettyChars level)) := List.intercalate_cons_cons
          rw [hcons, ← ih, List.append_assoc _ [',']]
          rfl

/-- A member as the printer writes it. -/
def written (level : Nat) (m : String × Value) : WrittenMember :=
  ⟨m.1, m.2, m.1.toList.flatMap escapeChar, prettyChars level m.2⟩

theorem prettyMembers_eq (level : Nat) (members : Members) :
    prettyMembers level members = lines level (members.map fun m => (written level m).line) := by
  induction members with
  | nil => rfl
  | cons m rest ih =>
      obtain ⟨name, v⟩ := m
      have hline : newline level ++ quote name.toList ++ ':' :: ' ' :: prettyChars level v =
          newline level ++ (written level (name, v)).line := by
        simp [quote, written, WrittenMember.line]
      cases rest with
      | nil =>
          show newline level ++ quote name.toList ++ ':' :: ' ' :: prettyChars level v = _
          rw [hline]
          exact (List.intercalate_singleton ..).symm
      | cons m' rest =>
          have hcons : lines level (((name, v) :: m' :: rest).map fun m => (written level m).line) =
              newline level ++ (written level (name, v)).line ++ [','] ++
                lines level ((m' :: rest).map fun m => (written level m).line) :=
            List.intercalate_cons_cons
          rw [hcons, ← ih, ← hline, List.append_assoc _ [',']]
          rfl

/-- **The printer keeps to the layout.** -/
theorem laid_pretty {depth : Nat} {v : Value} (h : v.Worded depth) (level : Nat) :
    Laid level v (v.prettyChars level) := by
  induction h generalizing level with
  | null => exact .null
  | bool flag =>
      cases flag with
      | true => exact .true
      | false => exact .false
  | string text => exact .string (Json.spelled_quoted text.toList)
  | @array depth elements each ih =>
      cases elements with
      | nil => exact .emptyArray
      | cons e rest =>
          let rows := (e :: rest).map fun v => (v, prettyChars (level + 1) v)
          have hvalues : rows.map Prod.fst = e :: rest := by simp [rows, Function.comp_def]
          have htexts : rows.map Prod.snd = (e :: rest).map (prettyChars (level + 1)) := by
            simp [rows, Function.comp_def]
          have hlaid : Laid level (.array (rows.map Prod.fst))
              ('[' :: lines (level + 1) (rows.map Prod.snd) ++ newline level ++ [']']) := by
            refine .array (List.cons_ne_nil _ _) fun r hr => ?_
            obtain ⟨v, hv, rfl⟩ := List.mem_map.mp hr
            exact ih v hv (level + 1)
          rw [hvalues, htexts, ← prettyElements_eq] at hlaid
          exact hlaid
  | @object depth members each ih =>
      cases members with
      | nil => exact .emptyObject
      | cons m rest =>
          let rows := (m :: rest).map (written (level + 1))
          have hmembers : rows.map WrittenMember.member = m :: rest := by
            simp [rows, Function.comp_def, written, WrittenMember.member]
          have htexts : rows.map WrittenMember.line =
              (m :: rest).map fun m => (written (level + 1) m).line := List.map_map
          have hlaid : Laid level (.object (rows.map WrittenMember.member))
              ('{' :: lines (level + 1) (rows.map WrittenMember.line) ++ newline level ++ ['}']) := by
            refine .object (List.cons_ne_nil _ _) (fun w hw => ?_) fun w hw => ?_
            · obtain ⟨m, -, rfl⟩ := List.mem_map.mp hw
              exact Json.spelled_quoted m.1.toList
            · obtain ⟨m, hm, rfl⟩ := List.mem_map.mp hw
              exact ih m hm (level + 1)
          rw [hmembers, htexts, ← prettyMembers_eq] at hlaid
          exact hlaid

end JsonSchema.Value
