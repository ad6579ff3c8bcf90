import JsonSchema.Proofs.Json.Layout
import JsonSchema.Proofs.Json.UniqueNames

/-!
# `JsonSchema.Proofs.Json.ReadBack` — what is written is read back

Text in the layout of `JsonSchema.Proofs.Json.Layout` is read as the value it lays out. The reader is a
machine, so this is a statement about the state in which a text leaves it: a value that is due in some
containers is complete after its text, in the same containers (`through_laid`). A state in which a value
is due may also allow a closing bracket, but no value begins with one.

## Contents
- **Stretches of text.** `State.through`, and a run over text that leads to a state (`run_of_through`).
- **Quotes.** `Gathers`: names and string values are gathered alike; `through_spelled`.
- **Values.** `State.Awaits`, `State.AwaitsName`, and `through_laid`.
- **Reading.** `read_of_laid`, `read_pretty`.
-/

namespace JsonSchema.Json

variable {stack : List Frame} {s s' : State} {c : Char}

/-! ## Stretches of text -/

namespace State

/-- The state after some characters. -/
def through (s : State) (chars : List Char) : Outcome := chars.foldlM step s

theorem through_cons (h : s.step c = .ok s') (rest : List Char) :
    s.through (c :: rest) = s'.through rest := by
  show (s.step c >>= fun next => next.through rest) = _
  rw [h]
  rfl

theorem through_append {front : List Char} (h : s.through front = .ok s') (rest : List Char) :
    s.through (front ++ rest) = s'.through rest := by
  rw [through, List.foldlM_append]
  show (s.through front >>= fun next => next.through rest) = _
  rw [h]
  rfl

end State

/-- A run over characters ends as the state that they lead to ends. -/
theorem run_of_through {chars : List Char} {v : Value} (h : s.through chars = .ok s')
    (hend : s'.atEnd = .ok v) (place : Position) : run s place chars = .ok v := by
  induction chars generalizing s place with
  | nil =>
      obtain rfl : s = s' := Except.ok.inj h
      rw [run, hend]
  | cons c rest ih =>
      cases hc : s.step c with
      | error e =>
          have hstop : s.through (c :: rest) = .error e := by
            show (s.step c >>= fun next => next.through rest) = _
            rw [hc]
            rfl
          rw [hstop] at h
          cases h
      | ok next =>
          rw [State.through_cons hc] at h
          rw [run, hc]
          exact ih h (place.past c)

/-! ## Quotes -/

/-- States that gather the characters of a text in quotes, the last first, as an escape goes on. -/
structure Gathers (f : List Char → Quoted → State) : Prop where
  more : ∀ {chars q c q'}, Quoted.step q c = .more q' → (f chars q).step c = .ok (f chars q')
  char : ∀ {chars q c d}, Quoted.step q c = .char d → (f chars q).step c = .ok (f (d :: chars) .plain)

theorem gathers_inString (stack : List Frame) : Gathers (State.inString stack) where
  more h := by rw [State.step, h]
  char h := by rw [State.step, h]

theorem gathers_inName (stack : List Frame) (members : Members) :
    Gathers (State.inName stack members) where
  more h := by rw [State.step, h]
  char h := by rw [State.step, h]

/-- A digit takes one byte. -/
theorem utf8Size_of_digit {d : Nat} (h : Text.digit? 16 c = some d) : c.utf8Size = 1 := by
  have hlow : c ≤ '9' ∨ c ≤ 'f' ∨ c ≤ 'F' := by
    unfold Text.digit? at h
    split_ifs at h with hnine hf hF
    · exact .inl hnine.2
    · exact .inr (.inl hf.2)
    · exact .inr (.inr hF.2)
    · exact absurd h (by simp)
  have hascii : c.val ≤ 127 := by
    rcases hlow with h | h | h <;> exact UInt32.le_trans (Char.le_def.mp h) (by decide)
  exact if_pos hascii

/-- A digit of an escape that is not its last. -/
theorem step_hex {lead : Option Nat} {bytes n d : Nat} (hbytes : bytes + 1 < 4)
    (h : Text.digit? 16 c = some d) :
    Quoted.step (.hex lead bytes (some n)) c = .more (.hex lead (bytes + 1) (some (n * 16 + d))) := by
  rw [Quoted.step, utf8Size_of_digit h, if_pos hbytes, h]
  rfl

/-- The last digit of an escape. -/
theorem step_hex_last {lead : Option Nat} {bytes n d : Nat} (hbytes : 4 ≤ bytes + 1)
    (h : Text.digit? 16 c = some d) :
    Quoted.step (.hex lead bytes (some n)) c = Quoted.unit lead (n * 16 + d) (4 - bytes) := by
  rw [Quoted.step, utf8Size_of_digit h, if_neg (Nat.not_lt.mpr hbytes), h]
  rfl

section Quotes

variable {f : List Char → Quoted → State} (hf : Gathers f)
include hf

/-- A character that need not be escaped stands for itself. -/
theorem through_plain (h : ¬MustEscape c) (chars rest : List Char) :
    (f chars .plain).through (c :: rest) = (f (c :: chars) .plain).through rest := by
  refine State.through_cons (hf.char ?_) rest
  rw [Quoted.step, if_neg fun hq => h (.inl hq), if_neg fun hs => h (.inr (.inl hs)),
    if_neg fun hl => h (.inr (.inr hl))]

/-- **An escape stands for its character.** -/
theorem through_escape {e : List Char} (he : Escape c e) (chars : List Char) :
    (f chars .plain).through e = .ok (f (c :: chars) .plain) := by
  have hopen : Quoted.step .plain '\\' = .more .escape := rfl
  cases he with
  | @letter d hd =>
      rw [State.through_cons (hf.more hopen)]
      have hu : d ≠ 'u' := by
        rintro rfl
        cases hd
      have hstep : Quoted.step .escape d = .char c := by
        rw [Quoted.step, if_neg hu, hd]
      rw [State.through_cons (hf.char hstep)]
      rfl
  | @number high low hhigh hlow =>
      have hsmall : c.toNat < 256 := by
        have hlt := Text.digit?_lt hhigh
        omega
      have hu : Quoted.step .escape 'u' = .more (.hex none 0 (some 0)) := rfl
      have hzero : Text.digit? 16 '0' = some 0 := by decide
      have hlast : Quoted.step (.hex none 3 (some (0 * 16 + c.toNat / 16))) low = .char c := by
        have hvalue : (0 * 16 + c.toNat / 16) * 16 + c.toNat % 16 = c.toNat := by omega
        rw [step_hex_last (Nat.le_refl 4) hlow, hvalue, Quoted.unit, if_neg (by omega), if_neg (by omega),
          Char.ofNat_toNat]
      rw [State.through_cons (hf.more hopen), State.through_cons (hf.more hu),
        State.through_cons (hf.more (step_hex (by decide) hzero)),
        State.through_cons (hf.more (step_hex (by decide) hzero)),
        State.through_cons (hf.more (step_hex (by decide) hhigh)),
        State.through_cons (hf.char hlast)]
      rfl

/-- **The spelling of a text is gathered as the text.** -/
theorem through_spelled {cs out : List Char} (h : Spelled cs out) (chars : List Char) :
    (f chars .plain).through out = .ok (f (cs.reverse ++ chars) .plain) := by
  induction h generalizing chars with
  | nil => rfl
  | @plain c cs out hc _ ih =>
      rw [through_plain hf hc, ih, List.reverse_cons, List.append_assoc]
      rfl
  | @escaped c cs e out _ he _ ih =>
      rw [State.through_append (through_escape hf he chars), ih, List.reverse_cons,
        List.append_assoc]
      rfl

end Quotes

theorem textOf_reverse (text : String) : State.textOf text.toList.reverse = text := by
  rw [State.textOf, List.reverse_reverse, String.ofList_toList]

/-! ## Values -/

/-- A state in which a value is due inside containers. It may allow a closing bracket as well. -/
structure State.Awaits (s : State) (stack : List Frame) : Prop where
  blank : ∀ {c}, isBlank c = true → s.step c = .ok s
  opens : ∀ {c}, isBlank c = false → c ≠ ']' → s.step c = State.opened stack c

/-- A state in which the name of a member is due. -/
structure State.AwaitsName (s : State) (stack : List Frame) (members : Members) : Prop where
  blank : ∀ {c}, isBlank c = true → s.step c = .ok s
  opens : s.step '"' = .ok (.inName stack members [] .plain)

theorem awaits_due (stack : List Frame) : (State.due stack).Awaits stack where
  blank h := by rw [State.step, if_pos h]
  opens h _ := by rw [State.step, if_neg (by rw [h]; exact Bool.false_ne_true)]

theorem awaits_arrayOpen (stack : List Frame) :
    (State.arrayOpen stack).Awaits (.array [] :: stack) where
  blank h := by rw [State.step, if_pos h]
  opens h hc := by rw [State.step, if_neg (by rw [h]; exact Bool.false_ne_true), if_neg hc]

theorem awaits_arrayNext (stack : List Frame) (elements : List Value) :
    (State.arrayNext stack elements).Awaits (.array elements :: stack) where
  blank h := by rw [State.step, if_pos h]
  opens h hc := by rw [State.step, if_neg (by rw [h]; exact Bool.false_ne_true), if_neg hc]

theorem awaitsName_objectOpen (stack : List Frame) : (State.objectOpen stack).AwaitsName stack [] where
  blank h := by rw [State.step, if_pos h]
  opens := rfl

theorem awaitsName_objectNext (stack : List Frame) (members : Members) :
    (State.objectNext stack members).AwaitsName stack members where
  blank h := by rw [State.step, if_pos h]
  opens := rfl

/-- Where blanks change nothing, a new line changes nothing. -/
theorem through_newline (h : ∀ {c}, isBlank c = true → s.step c = .ok s) (level : Nat) :
    s.through (Value.newline level) = .ok s := by
  have hspaces : ∀ n, s.through (List.replicate n ' ') = .ok s := by
    intro n
    induction n with
    | zero => rfl
    | succ n ih => rw [List.replicate_succ, State.through_cons (h rfl), ih]
  rw [Value.newline, State.through_cons (h rfl), hspaces]

/-- What is to be shown of a value and its text: wherever the value is due, it is complete after its text. -/
def ReadsAs (level : Nat) (v : Value) (text : List Char) : Prop :=
  ∀ (s : State) (stack : List Frame), s.Awaits stack → stack.length = level →
    s.through text = .ok (State.complete stack v)

/-- **The lines of an array are gathered as its elements**, the last first. -/
theorem through_elements {level : Nat} {rows : List (Value × List Char)} (hne : rows ≠ [])
    (each : ∀ r ∈ rows, ReadsAs (level + 1) r.1 r.2) {elements : List Value}
    (hs : s.Awaits (.array elements :: stack)) (hlevel : stack.length = level) :
    s.through (lines (level + 1) (rows.map Prod.snd)) =
      .ok (.arrayRest stack ((rows.map Prod.fst).reverse ++ elements)) := by
  induction rows generalizing s elements with
  | nil => exact absurd rfl hne
  | cons r rest ih =>
      have hfirst : s.through (Value.newline (level + 1) ++ r.2) =
          .ok (.arrayRest stack (r.1 :: elements)) := by
        rw [State.through_append (through_newline hs.blank _)]
        exact each r List.mem_cons_self s _ hs (by rw [List.length_cons, hlevel])
      cases rest with
      | nil =>
          rw [lines, List.map_cons, List.map_cons, List.map_nil, List.map_nil, List.intercalate_singleton]
          exact hfirst
      | cons r' rest =>
          have hrest : ∀ r ∈ r' :: rest, ReadsAs (level + 1) r.1 r.2 :=
            fun r hr => each r (List.mem_cons_of_mem _ hr)
          have hcons : lines (level + 1) ((r :: r' :: rest).map Prod.snd) =
              Value.newline (level + 1) ++ r.2 ++ [','] ++
                lines (level + 1) ((r' :: rest).map Prod.snd) := List.intercalate_cons_cons
          have hcomma : (State.arrayRest stack (r.1 :: elements)).step ',' =
              .ok (.arrayNext stack (r.1 :: elements)) := rfl
          rw [hcons, List.append_assoc _ [','], State.through_append hfirst, List.singleton_append,
            State.through_cons hcomma,
            ih (List.cons_ne_nil _ _) hrest (awaits_arrayNext stack (r.1 :: elements))]
          simp

/-- **The line of a member is read as the member.** -/
theorem through_line {level : Nat} {w : WrittenMember} (hname : Spelled w.name.toList w.spelled)
    (hvalue : ReadsAs (level + 1) w.value w.text) {members : Members} (hs : s.AwaitsName stack members)
    (hlevel : stack.length = level) (hnew : w.name ∉ members.map Prod.fst) :
    s.through w.line = .ok (.objectRest stack (members ++ [w.member])) := by
  have hquote : (State.inName stack members w.name.toList.reverse .plain).step '"' =
      .ok (.dueColon stack members w.name) := by
    show Except.ok (State.dueColon stack members (State.textOf w.name.toList.reverse)) = _
    rw [textOf_reverse]
  have hcolon : (State.dueColon stack members w.name).step ':' =
      .ok (.due (.object members w.name :: stack)) := rfl
  have hdue := awaits_due (.object members w.name :: stack)
  have hspelled := through_spelled (gathers_inName stack members) hname []
  rw [List.append_nil] at hspelled
  rw [WrittenMember.line, List.cons_append, State.through_cons hs.opens,
    State.through_append hspelled, State.through_cons hquote, State.through_cons hcolon,
    State.through_cons (hdue.blank rfl), hvalue _ _ hdue (by rw [List.length_cons, hlevel])]
  show Except.ok (State.objectRest stack (members.insert w.name w.value)) = _
  rw [Members.insert_of_new hnew]
  rfl

/-- **The lines of an object are gathered as its members.** -/
theorem through_members {level : Nat} {rows : List WrittenMember} (hne : rows ≠ [])
    (names : ∀ w ∈ rows, Spelled w.name.toList w.spelled)
    (each : ∀ w ∈ rows, ReadsAs (level + 1) w.value w.text) {members : Members}
    (hs : s.AwaitsName stack members) (hlevel : stack.length = level)
    (hnodup : ((members ++ rows.map WrittenMember.member).map Prod.fst).Nodup) :
    s.through (lines (level + 1) (rows.map WrittenMember.line)) =
      .ok (.objectRest stack (members ++ rows.map WrittenMember.member)) := by
  induction rows generalizing s members with
  | nil => exact absurd rfl hne
  | cons w rest ih =>
      have hnew : w.name ∉ members.map Prod.fst := by
        rw [List.map_append, List.map_cons, List.map_cons] at hnodup
        intro hmem
        exact (List.nodup_append.mp hnodup).2.2 _ hmem _ List.mem_cons_self rfl
      have hfirst : s.through (Value.newline (level + 1) ++ w.line) =
          .ok (.objectRest stack (members ++ [w.member])) := by
        rw [State.through_append (through_newline hs.blank _)]
        exact through_line (names w List.mem_cons_self) (each w List.mem_cons_self) hs hlevel hnew
      cases rest with
      | nil =>
          rw [lines, List.map_cons, List.map_cons, List.map_nil, List.map_nil, List.intercalate_singleton]
          exact hfirst
      | cons w' rest =>
          have hcons : lines (level + 1) ((w :: w' :: rest).map WrittenMember.line) =
              Value.newline (level + 1) ++ w.line ++ [','] ++
                lines (level + 1) ((w' :: rest).map WrittenMember.line) := List.intercalate_cons_cons
          have hcomma : (State.objectRest stack (members ++ [w.member])).step ',' =
              .ok (.objectNext stack (members ++ [w.member])) := rfl
          have hassoc : members ++ (w :: w' :: rest).map WrittenMember.member =
              members ++ [w.member] ++ (w' :: rest).map WrittenMember.member := by simp
          rw [hassoc] at hnodup ⊢
          rw [hcons, List.append_assoc _ [','], State.through_append hfirst, List.singleton_append,
            State.through_cons hcomma]
          exact ih (List.cons_ne_nil _ _) (fun w hw => names w (List.mem_cons_of_mem _ hw))
            (fun w hw => each w (List.mem_cons_of_mem _ hw))
            (awaitsName_objectNext stack (members ++ [w.member])) hnodup

theorem opened_array {level depth : Nat} {elements : List Value}
    (hworded : (Value.array elements).Worded depth) (hdepth : level + depth ≤ maxDepth)
    (hlevel : stack.length = level) : State.opened stack '[' = .ok (.arrayOpen stack) := by
  have hroom : stack.length < maxDepth := by
    cases hworded
    omega
  exact if_pos hroom

theorem opened_object {level depth : Nat} {members : Members}
    (hworded : (Value.object members).Worded depth) (hdepth : level + depth ≤ maxDepth)
    (hlevel : stack.length = level) : State.opened stack '{' = .ok (.objectOpen stack) := by
  have hroom : stack.length < maxDepth := by
    cases hworded
    omega
  exact if_pos hroom

/-- **Text in the layout is read as the value it lays out**, wherever that value is due. -/
theorem through_laid {level : Nat} {v : Value} {text : List Char} (h : Laid level v text) {depth : Nat}
    (hworded : v.Worded depth) (hnames : v.UniqueNames) (hdepth : level + depth ≤ maxDepth) :
    ReadsAs level v text := by
  induction h generalizing depth with
  | null | «true» | «false» =>
      intro s stack hs _
      rw [State.through_cons (hs.opens rfl (by decide))]
      rfl
  | @string level text out h =>
      intro s stack hs _
      have hopen : State.opened stack '"' = .ok (.inString stack [] .plain) := rfl
      have hspelled := through_spelled (gathers_inString stack) h []
      rw [List.append_nil] at hspelled
      have hclose : (State.inString stack text.toList.reverse .plain).step '"' =
          .ok (.complete stack (.string text)) := by
        show Except.ok (State.complete stack (.string (State.textOf text.toList.reverse))) = _
        rw [textOf_reverse]
      rw [List.cons_append, State.through_cons ((hs.opens rfl (by decide)).trans hopen),
        State.through_append hspelled, State.through_cons hclose]
      rfl
  | emptyArray =>
      intro s stack hs hlevel
      have hopen := opened_array hworded hdepth hlevel
      rw [State.through_cons ((hs.opens rfl (by decide)).trans hopen)]
      rfl
  | @array level rows hne each ih =>
      intro s stack hs hlevel
      have hopen := opened_array hworded hdepth hlevel
      have hlines : (State.arrayOpen stack).through (lines (level + 1) (rows.map Prod.snd)) =
          .ok (.arrayRest stack ((rows.map Prod.fst).reverse ++ [])) := by
        refine through_elements hne (fun r hr => ?_) (awaits_arrayOpen stack) hlevel
        have hmem : r.1 ∈ rows.map Prod.fst := List.mem_map_of_mem hr
        cases hworded with
        | array hwords =>
            exact ih r hr (hwords _ hmem) (Value.uniqueNames_array.mp hnames _ hmem) (by omega)
      have hrest : ∀ {c}, isBlank c = true →
          (State.arrayRest stack ((rows.map Prod.fst).reverse ++ [])).step c = .ok _ :=
        fun hc => if_pos hc
      have hclose : (State.arrayRest stack ((rows.map Prod.fst).reverse ++ [])).step ']' =
          .ok (.complete stack (.array (rows.map Prod.fst))) := by
        show Except.ok (State.complete stack (.array ((rows.map Prod.fst).reverse ++ []).reverse)) = _
        rw [List.append_nil, List.reverse_reverse]
      rw [List.append_assoc, List.cons_append, State.through_cons ((hs.opens rfl (by decide)).trans hopen),
        State.through_append hlines, State.through_append (through_newline hrest _),
        State.through_cons hclose]
      rfl
  | emptyObject =>
      intro s stack hs hlevel
      have hopen := opened_object hworded hdepth hlevel
      rw [State.through_cons ((hs.opens rfl (by decide)).trans hopen)]
      rfl
  | @object level rows hne names each ih =>
      intro s stack hs hlevel
      have hopen := opened_object hworded hdepth hlevel
      obtain ⟨hnodup, hunique⟩ := Value.uniqueNames_object.mp hnames
      have hlines : (State.objectOpen stack).through (lines (level + 1) (rows.map WrittenMember.line)) =
          .ok (.objectRest stack ([] ++ rows.map WrittenMember.member)) := by
        refine through_members hne names (fun w hw => ?_) (awaitsName_objectOpen stack) hlevel hnodup
        have hmem : w.member ∈ rows.map WrittenMember.member := List.mem_map_of_mem hw
        cases hworded with
        | object hwords => exact ih w hw (hwords _ hmem) (hunique _ _ hmem) (by omega)
      have hrest : ∀ {c}, isBlank c = true →
          (State.objectRest stack ([] ++ rows.map WrittenMember.member)).step c = .ok _ :=
        fun hc => if_pos hc
      have hclose : (State.objectRest stack ([] ++ rows.map WrittenMember.member)).step '}' =
          .ok (.complete stack (.object (rows.map WrittenMember.member))) := rfl
      rw [List.append_assoc, List.cons_append, State.through_cons ((hs.opens rfl (by decide)).trans hopen),
        State.through_append hlines, State.through_append (through_newline hrest _),
        State.through_cons hclose]
      rfl

/-! ## Reading -/

/-- **Text in the layout is read as the value it lays out**, also with a line break at its end. -/
theorem read_of_laid {v : Value} {text : List Char} (h : Laid 0 v text) (hworded : v.Worded maxDepth)
    (hnames : v.UniqueNames) : read (String.ofList (text ++ ['\n'])) = .ok v := by
  have hthrough : (State.due []).through (text ++ ['\n']) = .ok (.finished v) := by
    have hvalue := through_laid h hworded hnames (Nat.le_of_eq (Nat.zero_add _)) _ _ (awaits_due []) rfl
    rw [State.through_append hvalue]
    rfl
  rw [read, String.toList_ofList]
  exact run_of_through hthrough rfl _

end JsonSchema.Json
