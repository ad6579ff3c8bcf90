import JsonSchema.Proofs.Schema.Accounting

/-!
# `JsonSchema.Proofs.Schema.ReportOrder` — verdicts are in document order

Reports come in the order of the document: a value before its parts, and parts as they stand in it. The
reports about one value come keyword by keyword. `ReportOrder` says this of any two reports, however far
apart their places are, and the main statement is that a verdict is sorted by it.

## Contents
- **Order of places.** `Path.Before`.
- **Order of reports.** `reportOrder` (the keywords), `ReportOrder`.
- **Verdicts.** `ownViolations_inOrder`, `ReportOrder.under`, and the main statement
  `violations_inOrder`.
-/

namespace JsonSchema

/-! ## Order of places -/

/-- One place of a document comes before another: where their steps differ first, the step to the one
stands further to the front. -/
inductive Path.Before : Value → Path → Path → Prop where
  | apart {v : Value} {t u : Token} {p q : Path} :
      t ≠ u → t.Precedes v u → Before v (t :: p) (u :: q)
  | within {v w : Value} {t : Token} {p q : Path} :
      v.Step t w → Before w p q → Before v (t :: p) (t :: q)

/-! ## Order of reports -/

/-- The keywords in the order in which they are reported of one value. -/
def reportOrder : List String :=
  ["type", "enum", "const", "required", "additionalProperties", "minItems", "maxItems", "minLength",
    "maxLength", "pattern", "format", "minimum", "maximum", "exclusiveMinimum", "exclusiveMaximum"]

/-- **One report may come before another**: its place is above the other's or comes before it in the
document, or the places are the same and its keyword comes first. Missing members are reported as
`required` lists them, undeclared ones as they stand in the object. -/
inductive ReportOrder (schema document : Value) : Violation → Violation → Prop where
  | above {e f : Violation} (above : e.path <+: f.path) (apart : e.path ≠ f.path) :
      ReportOrder schema document e f
  | before {e f : Violation} (before : Path.Before document e.path f.path) :
      ReportOrder schema document e f
  | keyword {e f : Violation} (same : e.path = f.path)
      (order : [e.keyword, f.keyword].Sublist reportOrder) : ReportOrder schema document e f
  | missing {path : Path} {rules : Rules} {members : Members} {names : List Value} {m n : String}
      (place : Reaches schema document path (.object rules) (.object members))
      (listed : rules.at? .required = some (.array names))
      (order : [.string m, .string n].Sublist names) :
      ReportOrder schema document
        ⟨path, "required", "missing required property \"" ++ m ++ "\""⟩
        ⟨path, "required", "missing required property \"" ++ n ++ "\""⟩
  | undeclared {path : Path} {rules : Rules} {members : Members} {m n : String × Value}
      (place : Reaches schema document path (.object rules) (.object members))
      (order : [m, n].Sublist members) :
      ReportOrder schema document
        ⟨path, "additionalProperties", "additional property \"" ++ m.1 ++ "\" is not allowed"⟩
        ⟨path, "additionalProperties", "additional property \"" ++ n.1 ++ "\" is not allowed"⟩

/-! ## Verdicts -/

theorem pairwise_of_length_le_one {α : Type} {R : α → α → Prop} {l : List α} (h : l.length ≤ 1) :
    l.Pairwise R := by
  match l, h with
  | [], _ => exact .nil
  | [x], _ => exact List.pairwise_singleton R x

/-- Missing names stand in the order of the list that asks for them. -/
theorem missingNames_inOrder {rules : Rules} {v : Value} {names : List Value}
    (h : rules.at? .required = some (.array names)) :
    (missingNames rules v).Pairwise fun m n => [.string m, .string n].Sublist names := by
  have hnames : (names.filterMap Value.string?).Pairwise
      fun m n => [.string m, .string n].Sublist names := by
    rw [List.pairwise_filterMap, List.pairwise_iff_forall_sublist]
    intro a b hsub m hm n hn
    cases a <;> cases hm
    cases b <;> cases hn
    exact hsub
  unfold missingNames
  split
  case h_1 _ given hgiven =>
    rw [h] at hgiven
    cases hgiven
    exact hnames.filter _
  case h_2 => exact .nil

/-- Undeclared names stand in the order of the members. -/
theorem undeclaredNames_inOrder (rules : Rules) (members : Members) :
    (undeclaredNames rules (.object members)).Pairwise
      fun m n => ∃ w w', [(m, w), (n, w')].Sublist members := by
  have hmembers : (members.map Prod.fst).Pairwise
      fun m n => ∃ w w', [(m, w), (n, w')].Sublist members := by
    rw [List.pairwise_map, List.pairwise_iff_forall_sublist]
    exact fun {a b} hsub => ⟨a.2, b.2, hsub⟩
  unfold undeclaredNames
  split
  case h_1 _ hv _ =>
    cases hv
    exact hmembers.filter _
  case h_2 => exact .nil

section Verdicts

variable {policy : FormatPolicy} {rules : Rules} {schema v : Value}

/-- The reports of one keyword about a value are in order. -/
theorem keywordViolations_inOrder (k : Keyword) :
    (keywordViolations policy rules v k).Pairwise (ReportOrder (.object rules) v) := by
  by_cases hr : k = .required
  · subst hr
    rw [keywordViolations_required, List.pairwise_map]
    cases v with
    | object members =>
        by_cases hlist : ∃ names, rules.at? .required = some (.array names)
        · obtain ⟨names, hn⟩ := hlist
          exact (missingNames_inOrder hn).imp fun hsub => .missing .here hn hsub
        · rw [missingNames_eq_nil fun names hn => hlist ⟨names, hn⟩]
          exact .nil
    | _ => exact .nil
  · by_cases ha : k = .additionalProperties
    · subst ha
      rw [keywordViolations_additional, List.pairwise_map]
      cases v with
      | object members =>
          refine (undeclaredNames_inOrder rules members).imp ?_
          rintro m n ⟨w, w', hsub⟩
          exact .undeclared .here hsub
      | _ => exact .nil
    · exact pairwise_of_length_le_one (length_keywordViolations_le hr ha)

/-- Of two keywords, the one that is looked at first is reported first. -/
theorem heldTo_inOrder : heldTo.Pairwise fun j k => [j.name, k.name].Sublist reportOrder := by
  rw [List.pairwise_iff_forall_sublist]
  intro j k hsub
  exact (hsub.map Keyword.name).trans (List.sublist_cons_self "type" (heldTo.map Keyword.name))

/-- **The reports about a value itself are in order.** -/
theorem ownViolations_inOrder :
    (ownViolations policy schema v).Pairwise (ReportOrder schema v) := by
  cases schema with
  | object rules =>
      by_cases hopen : Rules.opens rules v = true
      · rw [ownViolations_of_open hopen, List.pairwise_flatMap]
        refine ⟨fun k _ => keywordViolations_inOrder k, heldTo_inOrder.imp ?_⟩
        intro j k hjk e he f hf
        obtain ⟨hep, hek⟩ := of_mem_keywordViolations he
        obtain ⟨hfp, hfk⟩ := of_mem_keywordViolations hf
        refine .keyword (hep.trans hfp.symm) ?_
        rw [hek, hfk]
        exact hjk
      · rw [ownViolations_of_closed hopen]
        exact List.pairwise_singleton _ _
  | bool b =>
      cases b with
      | true => exact .nil
      | false => exact List.pairwise_singleton _ _
  | null | number n | string text | array elements => exact .nil

/-- Reports about a part keep their order when they are seen from the value. -/
theorem ReportOrder.under {c : Part} {e f : Violation} (hc : c ∈ parts schema v)
    (h : ReportOrder c.schema c.value e f) :
    ReportOrder schema v (e.under [c.token]) (f.under [c.token]) := by
  obtain ⟨rules, rfl, hgate, hgoverns⟩ := mem_parts_iff.mp hc
  cases h with
  | above habove hapart =>
      refine .above ?_ ?_
      · exact List.cons_prefix_cons.mpr ⟨rfl, habove⟩
      · exact fun heq => hapart (List.cons.inj heq).2
  | before hbefore => exact .before (.within hgoverns.step hbefore)
  | keyword hsame horder => exact .keyword (congrArg (c.token :: ·) hsame) horder
  | missing hplace hlisted horder => exact .missing (.step hgate hgoverns hplace) hlisted horder
  | undeclared hplace horder => exact .undeclared (.step hgate hgoverns hplace) horder

/-- **A verdict is sorted**: of any two reports, the one that stands first may come before the other. -/
theorem violations_inOrder (policy : FormatPolicy) (calls : List (Value × Value)) (schema : Value)
    (hv : v.UniqueNames) :
    ((Validator.after policy calls).validate schema v).1.violations.Pairwise
      (ReportOrder schema v) := by
  rw [Validator.validate_after]
  induction schema, v using parts_induction with
  | step schema v ih =>
      rw [violations_eq, List.pairwise_append, List.pairwise_flatMap]
      refine ⟨ownViolations_inOrder, ⟨?_, ?_⟩, ?_⟩
      -- inside one part
      · intro c hc
        rw [List.pairwise_map]
        exact (ih c hc (uniqueNames_of_mem_parts hv hc)).imp fun h => h.under hc
      -- in one part and a later one
      · refine (parts_inOrder schema v).imp ?_
        intro c d hcd e he f hf
        obtain ⟨e', -, rfl⟩ := List.mem_map.mp he
        obtain ⟨f', -, rfl⟩ := List.mem_map.mp hf
        exact .before (.apart (hcd.ne hv) hcd)
      -- at the value itself and in a part
      · intro e he f hf
        obtain ⟨c, -, hmem⟩ := List.mem_flatMap.mp hf
        obtain ⟨f', -, rfl⟩ := List.mem_map.mp hmem
        have hroot : e.path = [] := path_of_mem_ownViolations he
        refine .above ?_ ?_
        · rw [hroot]
          exact List.nil_prefix
        · rw [hroot]
          exact fun h => absurd h (by simp)

theorem violations_inOrder_order :
    orderDocument.UniqueNames ∧
      ((Validator.after ⟨.empty, false⟩ []).validate orderSchema
        orderDocument).1.violations.Pairwise (ReportOrder orderSchema orderDocument) :=
  ⟨orderDocument_uniqueNames,
    violations_inOrder ⟨.empty, false⟩ [] orderSchema orderDocument_uniqueNames⟩

end Verdicts

end JsonSchema
