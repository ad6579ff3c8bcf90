/-!
# `JsonSchema.Text.Bytes` — text by its bytes

A text is held in UTF-8, and some readers count its bytes. An offset in bytes may lie inside a character
or behind the end; no text can be cut there.

## Contents
- **Bytes.** `bytes`.
- **Cuts.** `splitAtByte?`, `slice?`.
- **Laws.** `toByteArray_bytes`; `splitAtByte?_eq_some_iff` and `slice?_append`, which say where a text is
  cut; `ascii_of_bytes` and `bytes_of_ascii`: in ASCII a byte is a character.
-/

namespace JsonSchema.Text

/-- The bytes of a text in UTF-8. -/
def bytes (cs : List Char) : List UInt8 := cs.flatMap String.utf8EncodeChar

/-- The parts of a text before and after a byte offset; `none` where the offset lies inside a character
or behind the end. -/
def splitAtByte? : Nat → List Char → Option (List Char × List Char)
  | 0, cs => some ([], cs)
  | _ + 1, [] => none
  | n + 1, c :: rest =>
    if c.utf8Size ≤ n + 1 then
      (splitAtByte? (n + 1 - c.utf8Size) rest).map fun (front, back) => (c :: front, back)
    else none

/-- The part of a text between two byte offsets, if it can be cut at both of them. -/
def slice? (start stop : Nat) (cs : List Char) : Option (List Char) :=
  if start ≤ stop then do
    let (_, back) ← splitAtByte? start cs
    let (part, _) ← splitAtByte? (stop - start) back
    return part
  else none

theorem bytes_cons (c : Char) (cs : List Char) : bytes (c :: cs) = String.utf8EncodeChar c ++ bytes cs :=
  List.flatMap_cons

/-- The bytes are those in which a string is held. -/
theorem toByteArray_bytes (text : String) : (bytes text.toList).toByteArray = text.toByteArray :=
  String.utf8Encode_toList

theorem length_bytes_cons (c : Char) (cs : List Char) :
    (bytes (c :: cs)).length = c.utf8Size + (bytes cs).length := by
  rw [bytes_cons, List.length_append, String.length_utf8EncodeChar]

theorem bytes_eq_nil_iff {cs : List Char} : (bytes cs).length = 0 ↔ cs = [] := by
  cases cs with
  | nil => exact iff_of_true rfl rfl
  | cons c rest =>
      have hpos := c.utf8Size_pos
      rw [length_bytes_cons]
      exact iff_of_false (by omega) (List.cons_ne_nil c rest)

/-! ## Cuts -/

/-- A text can be cut behind any of its fronts. -/
theorem splitAtByte?_append (front back : List Char) :
    splitAtByte? (bytes front).length (front ++ back) = some (front, back) := by
  induction front with
  | nil => cases back <;> rfl
  | cons c front ih =>
      have hne : (bytes (c :: front)).length ≠ 0 := fun h => List.cons_ne_nil c front (bytes_eq_nil_iff.mp h)
      obtain ⟨n, hn⟩ := Nat.exists_eq_add_one_of_ne_zero hne
      have hsize : c.utf8Size ≤ n + 1 := by
        rw [← hn, length_bytes_cons]
        exact Nat.le_add_right _ _
      have hrest : n + 1 - c.utf8Size = (bytes front).length := by
        rw [← hn, length_bytes_cons, Nat.add_sub_cancel_left]
      rw [hn, List.cons_append, splitAtByte?, if_pos hsize, hrest, ih, Option.map_some]

/-- **Where a text is cut**: behind the front that takes as many bytes as the offset says, if there is one. -/
theorem splitAtByte?_eq_some_iff {n : Nat} {cs front back : List Char} :
    splitAtByte? n cs = some (front, back) ↔ cs = front ++ back ∧ (bytes front).length = n := by
  refine ⟨fun h => ?_, fun ⟨hcs, hn⟩ => by rw [hcs, ← hn, splitAtByte?_append]⟩
  fun_induction splitAtByte? n cs generalizing front with
  | case1 cs =>
      cases h
      exact ⟨rfl, rfl⟩
  | case2 => cases h
  | case3 n c rest hsize ih =>
      obtain ⟨⟨front', back'⟩, hsplit, heq⟩ := Option.map_eq_some_iff.mp h
      cases heq
      obtain ⟨hrest, hlen⟩ := ih hsplit
      refine ⟨by rw [hrest, List.cons_append], ?_⟩
      rw [length_bytes_cons, hlen]
      omega
  | case4 => cases h

/-- The part of a text that stands between a front and a back. -/
theorem slice?_append {start stop : Nat} (front part back : List Char)
    (hfront : (bytes front).length = start) (hpart : start + (bytes part).length = stop) :
    slice? start stop (front ++ (part ++ back)) = some part := by
  have hle : start ≤ stop := by omega
  have hlen : (bytes part).length = stop - start := by omega
  rw [slice?, if_pos hle, splitAtByte?_eq_some_iff.mpr ⟨rfl, hfront⟩]
  show (splitAtByte? (stop - start) (part ++ back)).bind _ = _
  rw [splitAtByte?_eq_some_iff.mpr ⟨rfl, hlen⟩]
  rfl

/-! ## ASCII -/

/-- Characters beyond ASCII take a byte beyond ASCII. -/
theorem exists_large_byte {c : Char} (h : 127 < c.toNat) : ∃ b ∈ String.utf8EncodeChar c, 128 ≤ b.toNat := by
  have hv : ¬c.val.toNat ≤ 127 := Nat.not_le_of_lt h
  unfold String.utf8EncodeChar
  dsimp only
  rw [if_neg hv]
  split
  · refine ⟨_, List.mem_cons_self, ?_⟩
    simp only [UInt8.toNat_ofNat']
    omega
  · split
    · refine ⟨_, List.mem_cons_self, ?_⟩
      simp only [UInt8.toNat_ofNat']
      omega
    · refine ⟨_, List.mem_cons_self, ?_⟩
      simp only [UInt8.toNat_ofNat']
      omega

/-- **Where all bytes are ASCII**, so are the characters. -/
theorem ascii_of_bytes {cs : List Char} (h : ∀ b ∈ bytes cs, b.toNat < 128) {c : Char} (hc : c ∈ cs) :
    c.toNat < 128 := by
  refine Nat.lt_of_not_le fun hlarge => ?_
  obtain ⟨b, hb, hge⟩ := exists_large_byte hlarge
  exact Nat.not_lt_of_le hge (h b (List.mem_flatMap.mpr ⟨c, hc, hb⟩))

/-- Characters of ASCII are their bytes. -/
theorem bytes_of_ascii {cs : List Char} (h : ∀ c ∈ cs, c.toNat < 128) :
    bytes cs = cs.map fun c => c.val.toUInt8 := by
  induction cs with
  | nil => rfl
  | cons c rest ih =>
      obtain ⟨hc, hrest⟩ := List.forall_mem_cons.mp h
      have hsize : c.utf8Size = 1 := Char.utf8Size_eq_one_iff.mpr (Nat.le_of_lt_succ hc)
      rw [bytes_cons, String.utf8EncodeChar_eq_singleton hsize, ih hrest, List.map_cons,
        List.singleton_append]

end JsonSchema.Text
