import JsonSchema.Pattern.Expr
import JsonSchema.Pattern.Bracket
import JsonSchema.Text.Digits

/-!
# `JsonSchema.Pattern.Notation` — from the text of a pattern to its expression

Groups nest to a fixed depth, and the depth left bounds the recursion. Inside a group the parts of
a pattern follow one another for as long as each takes at least one character.

## Contents
- **Cursor.** `Flags`, `Cursor`, blanks and comments (`skip`), small readers.
- **Atoms.** `escape`, `bracket`, `hexEscape`.
- **Counts.** `count?`, `piece`.
- **Groups.** `group`, `flags`, `conditional`, `pattern`.
- **Reading.** `parse?`.
-/

namespace JsonSchema.Pattern.Notation

open Text (digit? numeral? character?)

/-! ## Cursor -/

/-- The options that a pattern can switch. -/
structure Flags where
  insensitive : Bool
  multiline : Bool
  dotAll : Bool
  lazyFirst : Bool
  extended : Bool

/-- What is left of the pattern, and what has been met so far. -/
structure Cursor where
  rest : List Char
  flags : Flags
  /-- groups entered so far -/
  groups : Nat
  /-- groups by name, the latest first -/
  names : List (String × Nat)
  /-- groups referred to -/
  asked : List Nat
  /-- whether a group has been referred to by its number alone -/
  numbered : Bool
  /-- a reference by number has to stay below this -/
  numberLimit : Nat

/-- Move to a rest of the pattern. -/
def Cursor.at (c : Cursor) (rest : List Char) : Cursor := { c with rest := rest }

/-- The result of reading a part: its expression and where reading goes on. -/
abbrev Read := Option (Expr × Cursor)

/-- Where blanks are being skipped. -/
inductive SkipMode where
  | between
  /-- in a comment to the end of the line -/
  | line
  /-- in a comment in parentheses -/
  | parens

/-- Skip comments in parentheses, and with the extended flag blanks and comments to the end of the
line. A comment in parentheses has to end. -/
def skip (extended : Bool) : SkipMode → List Char → Option (List Char)
  | .parens, [] => none
  | _, [] => some []
  | .parens, ')' :: rest => skip extended .between rest
  | .parens, '\\' :: _ :: rest => skip extended .parens rest
  | .parens, _ :: rest => skip extended .parens rest
  | .line, '\n' :: rest => skip extended .between rest
  | .line, _ :: rest => skip extended .line rest
  | .between, '(' :: '?' :: '#' :: rest => skip extended .parens rest
  | .between, c :: rest =>
    if extended && (c == ' ' || c == '\r' || c == '\n' || c == '\t') then
      skip extended .between rest
    else if extended && c == '#' then skip extended .line rest
    else some (c :: rest)

/-- Skip what does not count at the cursor. -/
def Cursor.skip (c : Cursor) : Option Cursor :=
  (Notation.skip c.flags.extended .between c.rest).map c.at

/-- A decimal number that 64 bits hold. -/
def decimal? (cs : List Char) : Option (Nat × List Char) :=
  match cs.takeWhile Char.isDigit with
  | [] => none
  | digits =>
    (numeral? 10 digits).bind fun n =>
      if n < 2 ^ 64 then some (n, cs.dropWhile Char.isDigit) else none

/-- The character of a hexadecimal escape, written with a fixed number of digits or in braces. -/
def hexEscape? (digits : Nat) (cs : List Char) : Option (Char × List Char) :=
  let fixed := cs.take digits
  if fixed.length = digits ∧ (numeral? 16 fixed).isSome then do
    return (← character? (← numeral? 16 fixed), cs.drop digits)
  else match cs with
    | '{' :: rest =>
      let inner := rest.takeWhile fun c => (digit? 16 c).isSome
      match rest.dropWhile fun c => (digit? 16 c).isSome with
      | '}' :: after =>
        if inner.isEmpty ∨ 8 < inner.length then none
        else do return (← character? (← numeral? 16 inner), after)
      | _ => none
    | _ => none

/-- A character of a group's name. -/
def isNameChar (c : Char) : Bool :=
  c == '_' || Unicode.Property.alphabetic.contains c.toNat ||
    Unicode.Category.decimalNumber.contains c.toNat ||
    Unicode.Category.letterNumber.contains c.toNat ||
    Unicode.Category.otherNumber.contains c.toNat

/-- A name up to a closing character. -/
def name? (close : Char) (cs : List Char) : Option (String × List Char) :=
  let name := cs.takeWhile isNameChar
  match cs.dropWhile isNameChar with
  | c :: rest => if c = close ∧ name ≠ [] then some (String.ofList name, rest) else none
  | [] => none

/-! ## Atoms -/

/-- One character, or all that differ from it in case alone. -/
def literal (flags : Flags) (c : Char) : Expr :=
  .set ((CharSet.single c).foldIf flags.insensitive)

/-- The set of a property by the text between its braces. -/
def property? (text : List Char) : Option Unicode.CodeSet :=
  let split := fun mark : Char =>
    if text.contains mark then
      some (String.ofList (text.takeWhile (· != mark)),
        String.ofList ((text.dropWhile (· != mark)).drop 1))
    else none
  match split '!' with
  | some (property, value) =>
    match value.toList with
    | '=' :: value =>
      (Unicode.namedValue? property (String.ofList value)).map fun s =>
        { s with complement := !s.complement }
    | _ => none
  | none =>
    match split ':' <|> split '=' with
    | some (property, value) => Unicode.namedValue? property value
    | none => Unicode.named? (String.ofList text)

/-- The set of a property escape, its letter having been read. -/
def propertyEscape? (flags : Flags) (negated : Bool) (cs : List Char) :
    Option (CharSet × List Char) :=
  let finish := fun s : Unicode.CodeSet =>
    ((CharSet.property s).foldIf flags.insensitive).complIf negated
  match cs with
  | '{' :: rest =>
    match rest.dropWhile (· != '}') with
    | _ :: after => (property? (rest.takeWhile (· != '}'))).map fun s => (finish s, after)
    | [] => none
  | c :: rest => (Unicode.category? (Unicode.looseName c.toString)).map fun s => (finish s, rest)
  | [] => none

/-- A shorthand set by its letter. -/
def shorthand? (c : Char) : Option CharSet :=
  match c with
  | 'd' => some CharSet.digits
  | 'D' => some (.compl CharSet.digits)
  | 's' => some CharSet.blank
  | 'S' => some (.compl CharSet.blank)
  | 'w' => some CharSet.word
  | 'W' => some (.compl CharSet.word)
  | 'h' => some CharSet.hexDigits
  | 'H' => some (.compl CharSet.hexDigits)
  | _ => none

/-- The character that an escape letter stands for. -/
def controlEscape? (c : Char) : Option Char :=
  match c with
  | 'a' => some '\x07'
  | 'e' => some '\x1b'
  | 'f' => some '\x0c'
  | 'n' => some '\n'
  | 'r' => some '\r'
  | 't' => some '\t'
  | 'v' => some '\x0b'
  | _ => none

/-- Letters whose escapes are no character outside a class, and the letter itself inside. -/
def isPlaceLetter (c : Char) : Bool := ['k', 'A', 'z', 'b', 'B', 'K', 'G'].contains c

/-- An escape that stands for a character or a set, inside or outside a class. -/
def charEscape? (flags : Flags) (inClass : Bool) (c : Char) (rest : List Char) :
    Option (Bracket.Token × List Char) :=
  match shorthand? c with
  | some s => some (.set s, rest)
  | none =>
    if c = 'x' ∨ c = 'u' ∨ c = 'U' then
      let digits := if c = 'x' then 2 else if c = 'u' then 4 else 8
      (hexEscape? digits rest).map fun (d, r) => (.plain d, r)
    else if (c = 'p' ∨ c = 'P') ∧ rest ≠ [] then
      (propertyEscape? flags (c = 'P') rest).map fun (s, r) => (.set s, r)
    else if inClass ∧ c = 'b' then some (.plain '\x08', rest)
    else match controlEscape? c with
      | some d => some (.plain d, rest)
      | none =>
        if c.isAlpha ∧ ¬ (inClass ∧ isPlaceLetter c) then none else some (.plain c, rest)

/-- The tokens of a class up to its last bracket, counting the brackets that stand open. -/
def classTokens (flags : Flags) :
    Nat → Nat → List Char → Option (List Bracket.Token × List Char)
  | 0, _, _ => none
  | fuel + 1, depth, cs =>
    let keep := fun (t : Bracket.Token) (depth : Nat) (rest : List Char) =>
      (classTokens flags fuel depth rest).map fun (ts, r) => (t :: ts, r)
    match cs with
    | [] => none
    | '\\' :: c :: rest =>
      if c.isDigit then none
      else match charEscape? flags true c rest with
        | some (t, rest) => keep t depth rest
        | none => none
    | ['\\'] => none
    | '[' :: rest => keep (.raw '[') (depth + 1) rest
    | ']' :: rest =>
      if depth = 0 then some ([.raw ']'], rest) else keep (.raw ']') (depth - 1) rest
    | c :: rest => keep (.raw c) depth rest

/-- The tokens of a class whose first bracket has been read. A bracket that closes may be its
first member. -/
def wholeClass? (flags : Flags) (cs : List Char) : Option (List Bracket.Token × List Char) :=
  let (start, cs) : List Bracket.Token × List Char :=
    match cs with
    | '^' :: ']' :: rest => ([.raw '^', .raw ']'], rest)
    | '^' :: rest => ([.raw '^'], rest)
    | ']' :: rest => ([.raw ']'], rest)
    | _ => ([], cs)
  (classTokens flags (cs.length + 1) 0 cs).map fun (ts, r) => (start ++ ts, r)

/-- Whether a character has a meaning of its own in a pattern. -/
def isMark (c : Char) : Bool :=
  ['\\', '.', '+', '*', '?', '(', ')', '|', '[', '{', '^', '$'].contains c

/-- A character that tokens after a class may hold. -/
def trailing? (flags : Flags) : Bracket.Token → Option Expr
  | .plain c => some (literal flags c)
  | .set s => some (.set s)
  | .raw c => if isMark c then none else some (literal flags c)

/-- A bracket class, its first bracket having been read. -/
def bracket (c : Cursor) (rest : List Char) : Read := do
  let (tokens, rest) ← wholeClass? c.flags rest
  let (s, after) ← Bracket.read? c.flags.insensitive tokens
  let more ← after.mapM (trailing? c.flags)
  return (Expr.seqs (.set s :: more), c.at rest)

/-- A reference to a group, which has to have been entered. -/
def reference (c : Cursor) (index : Nat) (rest : List Char) : Read :=
  if index ≤ c.groups then
    some (.backref index, { c with rest := rest, asked := index :: c.asked })
  else none

/-- A reference by number. -/
def numberReference (c : Cursor) (cs : List Char) : Read := do
  let (n, rest) ← decimal? cs
  if n < c.numberLimit then reference { c with numbered := true } n rest else none

/-- A reference by name, by number, or by distance to the groups entered so far. -/
def nameReference (relative : Bool) (close : Char) (c : Cursor) (cs : List Char) : Read :=
  match name? close cs with
  | some (name, rest) =>
    match c.names.lookup name with
    | some index => reference c index rest
    | none =>
      match decimal? name.toList with
      | some (n, []) => reference c n rest
      | _ => none
  | none =>
    match relative, cs with
    | true, '-' :: after => do
      let (n, rest) ← decimal? after
      match rest with
      | d :: rest =>
        if d = close ∧ 0 < n ∧ n ≤ c.groups then reference c (c.groups + 1 - n) rest else none
      | [] => none
    | _, _ => none

/-- An escape outside a class, its backslash having been read. -/
def escape (c : Cursor) (cs : List Char) : Read :=
  match cs with
  | [] => none
  | e :: rest =>
    if e.isDigit then numberReference c cs
    else match e, rest with
      | 'k', '\'' :: after => nameReference true '\'' c after
      | 'k', '<' :: after => nameReference true '>' c after
      | 'k', _ => none
      | 'A', _ => some (.textStart, c.at rest)
      | 'z', _ => some (.textEnd, c.at rest)
      | 'G', _ => some (.searchStart, c.at rest)
      | 'K', _ => some (.atomic .empty, c.at rest)
      | '<', _ => some (.wordStart, c.at rest)
      | '>', _ => some (.wordEnd, c.at rest)
      | 'b', _ | 'B', _ => none
      | _, _ => do
        match ← charEscape? c.flags false e rest with
        | (.set s, rest) => some (.set s, c.at rest)
        | (.plain d, rest) | (.raw d, rest) => some (literal c.flags d, c.at rest)

/-! ## Counts -/

/-- A count in braces, the first of them having been read. -/
def count? (extended : Bool) (cs : List Char) : Option (Nat × Option Nat × List Char) := do
  let cs ← skip extended .between cs
  let (low, cs) ←
    match cs with
    | ',' :: _ => some (0, cs)
    | _ => decimal? cs
  match ← skip extended .between cs with
  | '}' :: rest => some (low, some low, rest)
  | ',' :: rest =>
    let cs ← skip extended .between rest
    let (high, cs) :=
      match decimal? cs with
      | some (high, cs) => (some high, cs)
      | none => (none, cs)
    match ← skip extended .between cs with
    | '}' :: rest => some (low, high, rest)
    | _ => none
  | _ => none

/-- The bounds of a count mark, and what follows it. -/
def bounds? (extended : Bool) (cs : List Char) : Option (Nat × Option Nat × List Char) :=
  match cs with
  | '?' :: rest => some (0, some 1, rest)
  | '*' :: rest => some (0, none, rest)
  | '+' :: rest => some (1, none, rest)
  | '{' :: rest => count? extended rest
  | _ => none

/-- An atom with its count, if one follows. A second mark makes the count prefer fewer, a plus
sign makes it keep its first match. -/
def piece (atom : Cursor → Read) (c : Cursor) : Read := do
  let (e, c) ← atom c
  let c ← c.skip
  match bounds? c.flags.extended c.rest with
  | none => some (e, c)
  | some (low, high, rest) =>
    if !e.repeatable then none
    else
      let c ← (c.at rest).skip
      let (lazy, rest) :=
        match c.rest with
        | '?' :: rest => (true, rest)
        | rest => (false, rest)
      let counted := Expr.repeated e low high (lazy == c.flags.lazyFirst)
      match rest with
      | '+' :: rest => some (.atomic counted, c.at rest)
      | _ => some (counted, c.at rest)

/-- Pieces one after the other, for as long as each takes something. -/
def branch (piece : Cursor → Read) (c : Cursor) (done : List Expr) : Read :=
  if c.rest = [] then some (Expr.seqs done.reverse, c)
  else match piece c with
    | none => none
    | some (e, next) =>
      if next.rest.length < c.rest.length then
        branch piece next (if e.isEmpty then done else e :: done)
      else some (Expr.seqs done.reverse, next)
termination_by c.rest.length

/-- Branches with bars between them. -/
def branches (oneBranch : Cursor → Read) (c : Cursor) (done : List Expr) : Read :=
  match oneBranch c with
  | none => none
  | some (e, next) =>
    match next.skip with
    | none => none
    | some next =>
      match next.rest with
      | '|' :: rest =>
        if rest.length < c.rest.length then branches oneBranch (next.at rest) (e :: done)
        else none
      | _ =>
        if done.isEmpty ∧ next.numbered ∧ ¬ next.names.isEmpty then none
        else some (Expr.alts (e :: done).reverse, next)
termination_by c.rest.length

/-! ## Groups -/

/-- The bracket that ends a group. -/
def close (c : Cursor) : Option Cursor :=
  match c.rest with
  | ')' :: rest => some (c.at rest)
  | _ => none

/-- The settings of flags up to the end of the list or the colon after it; `none` for a letter
that is no flag. The last flag read tells an empty list. -/
def flagList (extended : Bool) :
    Nat → List Char → Flags → Bool → Option Char → Option (Flags × Bool × List Char)
  | 0, _, _, _, _ => none
  | fuel + 1, cs, flags, off, last => do
    match ← skip extended .between cs with
    | 'i' :: rest => flagList extended fuel rest { flags with insensitive := !off } off (some 'i')
    | 'm' :: rest => flagList extended fuel rest { flags with multiline := !off } off (some 'm')
    | 's' :: rest => flagList extended fuel rest { flags with dotAll := !off } off (some 's')
    | 'U' :: rest => flagList extended fuel rest { flags with lazyFirst := !off } off (some 'U')
    | 'x' :: rest =>
      flagList (!off) fuel rest { flags with extended := !off } off (some 'x')
    | 'u' :: rest => if off then none else flagList extended fuel rest flags off (some 'u')
    | '-' :: rest => if off then none else flagList extended fuel rest flags true (some '-')
    | ')' :: rest =>
      if last = none ∨ last = some '-' then none else some (flags, true, rest)
    | ':' :: rest => if last = some '-' then none else some (flags, false, rest)
    | _ => none

/-- Flags for the rest of the pattern or for a group of their own. -/
def flagGroup (inner : Cursor → Read) (c : Cursor) (cs : List Char) : Read := do
  let (flags, toTheEnd, rest) ← flagList c.flags.extended (cs.length + 1) cs c.flags false none
  if toTheEnd then some (.empty, { c with flags := flags, rest := rest })
  else
    let (e, after) ← inner { c with flags := flags, rest := rest }
    let after ← close after
    some (e, { after with flags := c.flags })

/-- A choice that a condition decides, its opening having been read. -/
def conditional (inner : Cursor → Read) (c : Cursor) (cs : List Char) : Read := do
  let (condition, c) ←
    match cs with
    | [] => none
    | '\'' :: rest => nameReference true '\'' c rest
    | '<' :: rest => nameReference true '>' c rest
    | d :: _ => if d.isDigit then numberReference c cs else inner (c.at cs)
  let c ← close c
  let test :=
    match condition with
    | .backref i => Expr.hasGroup i
    | e => e
  let (body, after) ← inner c
  if after.rest.length = c.rest.length then
    match condition with
    | .backref _ => do some (test, ← close after)
    | _ => none
  else
    let (yes, no) :=
      match body with
      | .alt a b => (a, b)
      | e => (e, .empty)
    let after ← close after
    some (if yes.isEmpty ∧ no.isEmpty then test else .ifElse test yes no, after)

/-- A group that holds its text. -/
def capture (inner : Cursor → Read) (c : Cursor) (names : List (String × Nat))
    (rest : List Char) : Read := do
  let index := c.groups + 1
  let (e, after) ← inner { c with groups := index, names := names, rest := rest }
  some (.group index e, ← close after)

/-- A group that holds nothing, made into an expression. -/
def enclosed (inner : Cursor → Read) (wrap : Expr → Option Expr) (c : Cursor)
    (rest : List Char) : Read := do
  let (e, after) ← inner (c.at rest)
  let after ← close after
  some (← wrap e, after)

/-- A group, its opening having been read. -/
def group (inner : Cursor → Read) (c : Cursor) (rest : List Char) : Read := do
  let c ← (c.at rest).skip
  let named := fun cs => do
    let (name, rest) ← name? '>' cs
    capture inner c ((name, c.groups + 1) :: c.names) rest
  match c.rest with
  | '?' :: '=' :: rest => enclosed inner (some ∘ .lookAhead false) c rest
  | '?' :: '!' :: rest => enclosed inner (some ∘ .lookAhead true) c rest
  | '?' :: '<' :: '=' :: rest => enclosed inner (Expr.behind? false) c rest
  | '?' :: '<' :: '!' :: rest => enclosed inner (Expr.behind? true) c rest
  | '?' :: '<' :: rest => named rest
  | '?' :: 'P' :: '<' :: rest => named rest
  | '?' :: 'P' :: '=' :: rest => nameReference false ')' c rest
  | '?' :: '>' :: rest => enclosed inner (some ∘ .atomic) c rest
  | '?' :: '(' :: rest => conditional inner c rest
  | '?' :: rest => flagGroup inner c rest
  | rest => capture inner c c.names rest

/-- The smallest part of a pattern. -/
def atom (inner : Cursor → Read) (c : Cursor) : Read := do
  let c ← c.skip
  match c.rest with
  | [] => some (.empty, c)
  | '.' :: rest =>
    some (.set (if c.flags.dotAll then .compl .empty else .compl (CharSet.single '\n')), c.at rest)
  | '^' :: rest => some (if c.flags.multiline then .lineStart else .textStart, c.at rest)
  | '$' :: rest => some (if c.flags.multiline then .lineEnd else .textEnd, c.at rest)
  | '(' :: rest => group inner c rest
  | '\\' :: rest => escape c rest
  | '[' :: rest => bracket c rest
  | d :: rest =>
    if d = '+' ∨ d = '*' ∨ d = '?' ∨ d = '|' ∨ d = ')' then some (.empty, c)
    else some (literal c.flags d, c.at rest)

/-- A pattern inside as many groups as the depth leaves. -/
def pattern : Nat → Cursor → Read
  | 0, _ => none
  | depth + 1, c => branches (fun c => branch (piece (atom (pattern depth))) c []) c []

/-! ## Reading -/

/-- How deep patterns nest. -/
def maxDepth : Nat := 64

/-- The expression of a pattern. -/
def parse? (text : String) : Option Expr := do
  let flags : Flags := ⟨false, false, false, false, false⟩
  let (e, c) ← pattern maxDepth ⟨text.toList, flags, 0, [], [], false, text.utf8ByteSize / 2⟩
  if c.rest = [] then
    let e := e.keepGroups c.asked
    if e.wellBounded then some e else none
  else none

end JsonSchema.Pattern.Notation
