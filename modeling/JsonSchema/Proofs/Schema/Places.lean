import JsonSchema.Proofs.Schema.Keywords
import JsonSchema.Proofs.Schema.PatternCache

/-!
# `JsonSchema.Proofs.Schema.Places` — which part of a verdict belongs to which place

The walk comes to a place of the document with one schema, or not at all. `Reaches` says which, without
the walk. Where it comes, the violations below the place are one block of the verdict, and the block is
the verdict on the value there, by itself.

## Contents
- **Steps.** `Value.Step`, `Token.Precedes`: the parts are visited in document order (`parts_inOrder`),
  so no step is taken twice.
- **Places.** `Reaches`, which `Reaches.unique` shows to be a partial function of the place,
  `own_of_mem`: every violation is found at a place that is reached, and `violations_congr`.
- **Blocks.** `violations_of_part`: one step down. Main statement `violations_block`, and the order
  that later modules look at too, `orderSchema` and `orderDocument`.
-/

namespace JsonSchema

/-! ## Steps -/

/-- A step leads from a value to a part of it. -/
inductive Value.Step : Value → Token → Value → Prop where
  | member {members : Members} {name : String} {v : Value} :
      (name, v) ∈ members → Step (.object members) (.key name) v
  | element {elements : List Value} {i : Nat} {v : Value} :
      elements[i]? = some v → Step (.array elements) (.index i) v

/-- One step comes before another in a value: its member, or its element, stands further to the
front. -/
inductive Token.Precedes : Value → Token → Token → Prop where
  | members {members : Members} {m n : String × Value} :
      [m, n].Sublist members → Precedes (.object members) (.key m.1) (.key n.1)
  | elements {elements : List Value} {i j : Nat} :
      i < j → j < elements.length → Precedes (.array elements) (.index i) (.index j)

theorem Governs.step {rules : Rules} {v : Value} {t : Token} {s w : Value}
    (h : Governs rules v t s w) : v.Step t w := by
  cases h with
  | declared hm _ => exact .member hm
  | undeclared hm _ _ => exact .member hm
  | element hi _ _ => exact .element hi

/-- A step leads to one value alone where names are unique. -/
theorem Value.Step.unique {v w w' : Value} {t : Token} (hv : v.UniqueNames) (h : v.Step t w)
    (h' : v.Step t w') : w = w' := by
  cases h with
  | member hm =>
      cases h' with
      | member hm' =>
          have hnames := (Value.uniqueNames_object.mp hv).1
          exact (Prod.mk.inj (List.inj_on_of_nodup_map hnames hm hm' rfl)).2
  | element hi =>
      cases h' with
      | element hi' => exact Option.some.inj (hi.symm.trans hi')

/-- Rules put one schema on a part: a member that is declared is not looked at as an undeclared one. -/
theorem Governs.unique {rules : Rules} {v : Value} {t : Token} {s w s' w' : Value}
    (hv : v.UniqueNames) (h : Governs rules v t s w) (h' : Governs rules v t s' w') :
    s = s' ∧ w = w' := by
  refine ⟨?_, h.step.unique hv h'.step⟩
  cases h with
  | declared _ hd =>
      cases h' with
      | declared _ hd' =>
          exact Option.some.inj
            ((Rules.property?_eq_some.mpr hd).symm.trans (Rules.property?_eq_some.mpr hd'))
      | undeclared _ hn _ => exact absurd hd (hn _)
  | undeclared _ hn hextra =>
      cases h' with
      | declared _ hd => exact absurd hd (hn _)
      | undeclared _ _ hextra' => exact Option.some.inj (hextra.symm.trans hextra')
  | element _ hitems _ =>
      cases h' with
      | element _ hitems' _ => exact Option.some.inj (hitems.symm.trans hitems')

/-- Where names are unique, no step comes before itself. -/
theorem Token.Precedes.ne {v : Value} {t u : Token} (hv : v.UniqueNames) (h : t.Precedes v u) :
    t ≠ u := by
  cases h with
  | @members ms m n hsub =>
      have hnames := hsub.map Prod.fst |>.nodup (Value.uniqueNames_object.mp hv).1
      intro he
      exact (List.nodup_cons.mp hnames).1 (by simp [Token.key.inj he])
  | elements hij _ =>
      intro he
      exact Nat.ne_of_lt hij (Token.index.inj he)

theorem rulesParts_inOrder (rules : Rules) (v : Value) :
    (rules.parts v).Pairwise fun c d => c.token.Precedes v d.token := by
  cases v with
  | object members =>
      rw [Rules.parts, List.pairwise_filterMap, List.pairwise_iff_forall_sublist]
      intro m n hsub c hc d hd
      obtain ⟨s, -, rfl⟩ := Option.map_eq_some_iff.mp hc
      obtain ⟨s', -, rfl⟩ := Option.map_eq_some_iff.mp hd
      exact .members hsub
  | array elements =>
      unfold Rules.parts
      cases rules.elementSchema? with
      | none => exact List.Pairwise.nil
      | some s =>
          -- positions rise along the numbered elements, and stay below their number
          have hrise : elements.zipIdx.Pairwise fun e f => e.2 < f.2 := by
            rw [← List.pairwise_map, List.zipIdx_map_snd]
            exact List.pairwise_lt_range'
          rw [List.pairwise_map]
          refine hrise.imp_of_mem fun _ hf hlt => .elements hlt ?_
          exact List.snd_lt_of_mem_zipIdx hf
  | _ => exact List.Pairwise.nil

/-- **The parts of a value are visited in document order.** -/
theorem parts_inOrder (schema v : Value) :
    (parts schema v).Pairwise fun c d => c.token.Precedes v d.token := by
  unfold parts
  cases openRules? schema v with
  | none => exact List.Pairwise.nil
  | some rules => exact rulesParts_inOrder rules v

/-! ## Places -/

/-- **Where validation comes.** It stands at the document with the schema, and goes on from a value to
the parts that its schema governs, unless the type of the value closes the gate. -/
inductive Reaches : Value → Value → Path → Value → Value → Prop where
  | here {schema v : Value} : Reaches schema v [] schema v
  | step {rules : Rules} {v : Value} {t : Token} {s w : Value} {path : Path} {s' w' : Value}
      (gate : rules.GateOpen v) (governs : Governs rules v t s w)
      (rest : Reaches s w path s' w') : Reaches (.object rules) v (t :: path) s' w'

section Places

variable {policy : FormatPolicy} {schema v s w s' w' : Value} {path : Path}

/-- **A place is reached with one schema and one value.** -/
theorem Reaches.unique (hv : v.UniqueNames) (h : Reaches schema v path s w)
    (h' : Reaches schema v path s' w') : s = s' ∧ w = w' := by
  induction h with
  | here =>
      cases h' with
      | here => exact ⟨rfl, rfl⟩
  | step gate governs rest ih =>
      cases h' with
      | step gate' governs' rest' =>
          have hpart := uniqueNames_of_mem_parts hv (governs.mem_parts gate)
          -- both runs take the same first step, so they go on from one schema and one value
          obtain ⟨rfl, rfl⟩ := governs.unique hv governs'
          exact ih hpart rest'

/-- Every violation is one that the schema of its place finds in the value there, its parts aside. -/
theorem own_of_mem {e : Violation} (he : e ∈ (validate policy schema v).violations) :
    ∃ s w, Reaches schema v e.path s w ∧ ∃ own ∈ ownViolations policy s w, own.under e.path = e := by
  induction schema, v using parts_induction generalizing e with
  | step schema v ih =>
      rw [violations_eq, List.mem_append] at he
      rcases he with hown | hpart
      · have hpath : e.path = [] := path_of_mem_ownViolations hown
        refine ⟨schema, v, ?_, e, hown, ?_⟩
        · rw [hpath]
          exact .here
        · rw [hpath]
          rfl
      · obtain ⟨c, hc, hmem⟩ := List.mem_flatMap.mp hpart
        obtain ⟨f, hf, rfl⟩ := List.mem_map.mp hmem
        obtain ⟨s, w, hreach, own, hown, hunder⟩ := ih c hc hf
        obtain ⟨rules, rfl, hgate, hgoverns⟩ := mem_parts_iff.mp hc
        refine ⟨s, w, .step hgate hgoverns hreach, own, hown, ?_⟩
        rw [Violation.path_under, ← Violation.under_under, hunder]

/-- Violations are reported where validation comes, and nowhere else. -/
theorem reaches_of_mem {e : Violation} (he : e ∈ (validate policy schema v).violations) :
    ∃ s w, Reaches schema v e.path s w := by
  obtain ⟨s, w, hreach, -⟩ := own_of_mem he
  exact ⟨s, w, hreach⟩

/-- Two policies that find the same in each value that is reached give the same violations. -/
theorem violations_congr {policy' : FormatPolicy}
    (h : ∀ path s w, Reaches schema v path s w → ownViolations policy s w = ownViolations policy' s w) :
    (validate policy schema v).violations = (validate policy' schema v).violations := by
  induction schema, v using parts_induction with
  | step schema v ih =>
      rw [violations_eq, violations_eq, h [] schema v .here]
      congr 1
      refine List.flatMap_congr fun c hc => ?_
      obtain ⟨rules, rfl, hgate, hgoverns⟩ := mem_parts_iff.mp hc
      rw [ih c hc fun path s w hreach => h _ s w (.step hgate hgoverns hreach)]

/-! ## Blocks -/

/-- **One step down.** The violations in a part are one block, and no other violation is placed under
the step to that part. -/
theorem violations_of_part (hv : v.UniqueNames) {c : Part} (hc : c ∈ parts schema v) :
    ∃ before after,
      (validate policy schema v).violations =
        before ++ (validate policy c.schema c.value).violations.map (Violation.under [c.token]) ++
          after ∧
      ∀ e ∈ before ++ after, ∀ rest, e.path ≠ c.token :: rest := by
  obtain ⟨front, back, hsplit⟩ := List.append_of_mem hc
  let blocks : List Part → List Violation := fun cs => cs.flatMap fun d =>
    (validate policy d.schema d.value).violations.map (Violation.under [d.token])
  have hblocks : ∀ cs : List Part, (∀ d ∈ cs, d.token ≠ c.token) →
      ∀ e ∈ blocks cs, ∀ rest, e.path ≠ c.token :: rest := by
    intro cs hcs e he rest hpath
    obtain ⟨d, hd, hmem⟩ := List.mem_flatMap.mp he
    obtain ⟨f, -, rfl⟩ := List.mem_map.mp hmem
    exact hcs d hd (List.cons.inj hpath).1
  -- each step is taken once, so the parts in front and behind stand elsewhere
  have horder := parts_inOrder schema v
  rw [hsplit, List.pairwise_append, List.pairwise_cons] at horder
  obtain ⟨-, ⟨hback, -⟩, hfront⟩ := horder
  refine ⟨ownViolations policy schema v ++ blocks front, blocks back, ?_, ?_⟩
  · rw [violations_eq, hsplit, List.flatMap_append, List.flatMap_cons]
    simp only [blocks, List.append_assoc]
  · intro e he
    simp only [List.mem_append] at he
    rcases he with (hown | hf) | hb
    · intro rest hpath
      rw [path_of_mem_ownViolations hown] at hpath
      cases hpath
    · exact hblocks front (fun d hd => (hfront d hd c List.mem_cons_self).ne hv) e hf
    · exact hblocks back (fun d hd => ((hback d hd).ne hv).symm) e hb

/-- **What is found below a place is one block of the verdict**, and the block is the verdict on the
value there against the schema there, with the place put before each path. Neither verdict depends on
what else the validators have judged. -/
theorem violations_block (policy : FormatPolicy) (calls calls' : List (Value × Value))
    (hv : v.UniqueNames) (h : Reaches schema v path s w) :
    ∃ before after,
      ((Validator.after policy calls).validate schema v).1.violations =
        before ++
          ((Validator.after policy calls').validate s w).1.violations.map (Violation.under path) ++
          after ∧
      ∀ e ∈ before ++ after, ¬path <+: e.path := by
  simp only [Validator.validate_after]
  induction h with
  | here => exact ⟨[], [], by simp, by simp⟩
  | @step rules v t s w path s' w' gate governs rest ih =>
      have hc : ⟨t, s, w⟩ ∈ parts (.object rules) v := governs.mem_parts gate
      obtain ⟨before, after, hsplit, hother⟩ := ih (uniqueNames_of_mem_parts hv hc)
      obtain ⟨front, back, hpart, hout⟩ := violations_of_part hv hc
      refine ⟨front ++ before.map (Violation.under [t]), after.map (Violation.under [t]) ++ back,
        ?_, ?_⟩
      · rw [hpart, hsplit]
        simp [Function.comp_def]
      · intro e he hprefix
        have hcases : e ∈ front ++ back ∨ ∃ f ∈ before ++ after, f.under [t] = e := by
          simp only [List.mem_append, List.mem_map] at he ⊢
          rcases he with (hf | ⟨f, hb, rfl⟩) | ⟨f, ha, rfl⟩ | hb
          · exact Or.inl (Or.inl hf)
          · exact Or.inr ⟨f, Or.inl hb, rfl⟩
          · exact Or.inr ⟨f, Or.inr ha, rfl⟩
          · exact Or.inl (Or.inr hb)
        rcases hcases with hoff | ⟨f, hf, rfl⟩
        · obtain ⟨r, hr⟩ := hprefix
          exact hout e hoff (path ++ r) hr.symm
        · exact hother f hf (List.cons_prefix_cons.mp hprefix).2

/-- A schema for orders: `id` and `lines` are asked for, lines are whole numbers, and nothing else is
allowed. -/
def orderSchema : Value :=
  .object
    [("required", .array [.string "id", .string "lines"]),
      ("properties", .object
        [("lines", .object [("items", .object [("type", .string "integer")])])]),
      ("additionalProperties", .bool false)]

/-- An order without an `id`, with a line that is no number and a member that is not declared. -/
def orderDocument : Value :=
  .object
    [("lines", .array [.number (.integer 1 (by decide) (by decide)), .string "two"]),
      ("note", .null)]

theorem orderDocument_uniqueNames : orderDocument.UniqueNames := by
  refine .object (by decide) fun name v hm => ?_
  simp only [List.mem_cons, Prod.mk.injEq, List.not_mem_nil, or_false] at hm
  rcases hm with ⟨-, rfl⟩ | ⟨-, rfl⟩ <;> simp

/-- Validation comes to the second line. -/
theorem reaches_second_line : Reaches orderSchema orderDocument [.key "lines", .index 1]
    (.object [("type", .string "integer")]) (.string "two") :=
  .step (Rules.opens_iff.mp (by decide)) (.declared List.mem_cons_self ⟨_, rfl, rfl⟩)
    (.step (Rules.opens_iff.mp (by decide)) (.element rfl rfl (.inl rfl)) .here)

theorem violations_block_second_line :
    orderDocument.UniqueNames ∧
      Reaches orderSchema orderDocument [.key "lines", .index 1]
        (.object [("type", .string "integer")]) (.string "two") ∧
      ∃ before after,
        ((Validator.after ⟨.empty, false⟩ []).validate orderSchema orderDocument).1.violations =
          before ++
            ((Validator.after ⟨.empty, false⟩ []).validate
              (.object [("type", .string "integer")]) (.string "two")).1.violations.map
              (Violation.under [.key "lines", .index 1]) ++
            after ∧
        ∀ e ∈ before ++ after, ¬[Token.key "lines", .index 1] <+: e.path :=
  ⟨orderDocument_uniqueNames, reaches_second_line,
    violations_block ⟨.empty, false⟩ [] [] orderDocument_uniqueNames reaches_second_line⟩

end Places

end JsonSchema
