import JsonSchema.Proofs.Audit.Ignored
import JsonSchema.Proofs.Audit.Order

/-!
# `JsonSchema.Proofs.Audit.Locations` — warnings point at their keywords

A warning names a keyword and the place of a schema object. The place leads to an object in the schema,
whether one follows its tokens or reads its pointer, whatever the names on the way; the object has a
member of that name, and the warning tells its flaw. No two warnings are about one member. The names
that are warned of as unrecognized are all those that are no keywords, in every schema object to which
the audit comes.

## Contents
- **Unrecognized names.** `flaw_ne_unrecognized`, `memberFlaw?_unrecognized_iff`.
- **Apart.** `WarningOrder.location_ne`: one of two warnings that come one after the other is about
  another member.
- **Locations.** Main statement `warning_located`.
-/

namespace JsonSchema

/-! ## Unrecognized names -/

section Unrecognized

variable {formats : FormatRegistry} {schema x : Value} {rules : Rules} {name : String}

theorem Flaw.kind_eq_unrecognizedKeyword {f : Flaw} :
    f.kind = .unrecognizedKeyword ↔ f = .unrecognized := by
  cases f <;> simp [kind]

/-- No value makes a keyword unrecognized. -/
theorem flaw_ne_unrecognized {k : Keyword} {f : Flaw} (h : flaw? formats k x = some f) :
    f ≠ .unrecognized := by
  rintro rfl
  cases k with
  | type => exact absurd (kind_of_flaw_type h) (by decide)
  | required => exact absurd (kind_of_flaw_required h) (by decide)
  | enum | properties | minItems | maxItems | minLength | maxLength | minimum | maximum
  | exclusiveMinimum | exclusiveMaximum => cases (mustHold_eq_some_iff.mp h).2
  | additionalProperties | items => cases x <;> cases h
  | pattern =>
      cases x with
      | string source =>
          have hsome : (if (Pattern.compile? source).isSome then none
            else some (Flaw.invalidPattern source)) = some .unrecognized := h
          split at hsome <;> cases hsome
      | _ => cases h
  | format =>
      cases x with
      | string format =>
          have hsome : (if formats.has format then none
            else some (Flaw.unknownFormat format)) = some .unrecognized := h
          split at hsome <;> cases hsome
      | _ => cases h
  | _ => cases h

/-- A member is unrecognized for its name alone. -/
theorem memberFlaw?_unrecognized_iff :
    memberFlaw? formats name x = some .unrecognized ↔ Keyword.isRecognized name = false := by
  unfold memberFlaw? Keyword.isRecognized
  cases Keyword.ofName? name with
  | none => simp
  | some k => simpa using fun h => flaw_ne_unrecognized h rfl

/-- **Which names are warned of as unrecognized**: those that are no keywords, in the schema objects to
which the audit comes. -/
theorem unrecognized_iff {path : Path} :
    (∃ w ∈ audit formats schema, w.kind = .unrecognizedKeyword ∧ w.path = path ∧ w.keyword = name) ↔
      ∃ members, SchemaPlace schema path members ∧ name ∈ members.map Prod.fst ∧
        Keyword.isRecognized name = false := by
  constructor
  · rintro ⟨w, hw, hkind, rfl, rfl⟩
    obtain ⟨members, place, x, hmem, hflaw⟩ := mem_audit_iff.mp hw
    rw [Flaw.kind_eq_unrecognizedKeyword.mp hkind] at hflaw
    exact ⟨members, place, List.mem_map_of_mem hmem, memberFlaw?_unrecognized_iff.mp hflaw⟩
  · rintro ⟨members, place, hname, hunknown⟩
    obtain ⟨⟨_, x⟩, hmem, rfl⟩ := List.mem_map.mp hname
    refine ⟨⟨path, _, .unrecognized⟩, mem_audit_iff.mpr ⟨members, place, x, hmem, ?_⟩, rfl, rfl, rfl⟩
    exact memberFlaw?_unrecognized_iff.mpr hunknown

end Unrecognized

/-! ## Apart -/

section Apart

variable {formats : FormatRegistry} {schema : Value} {rules : Rules} {w w' : Warning} {p q : Path}

/-- Paths of which one is visited before the other are two. -/
theorem PathOrder.ne (hrules : (Value.object rules).UniqueNames)
    (h : PathOrder VisitedBefore rules p q) : p ≠ q := by
  cases h with
  | keyword order =>
      intro hpath
      exact order.ne (Keyword.key_injective (List.cons.inj hpath).1)
  | declared properties order =>
      intro hpath
      exact ne_of_declared hrules properties order (Token.key.inj (List.cons.inj (List.cons.inj hpath).2).1)

/-- Warnings of which one comes after the other are about two members. -/
theorem WarningOrder.location_ne (hs : schema.UniqueNames) (h : WarningOrder VisitedBefore schema w w') :
    (w.path, w.keyword) ≠ (w'.path, w'.keyword) := by
  intro hsame
  obtain ⟨hpath, hkeyword⟩ := Prod.mk.inj hsame
  cases h with
  | member place _ order =>
      exact ne_of_sublist (Value.uniqueNames_object.mp (place.uniqueNames hs)).1 order hkeyword
  | around _ apart => exact apart hpath
  | apart place first second order =>
      rw [first, second] at hpath
      exact order.ne (place.uniqueNames hs) (List.append_cancel_left hpath)

end Apart

/-! ## Locations -/

/-- **Warnings point at their keywords.** The place of a warning leads to an object of the schema by its
tokens and by its pointer, and the object has a member with the name and the flaw that the warning
tells. No two warnings are about one member of one object. A name is warned of as unrecognized exactly
if it is no keyword and stands in an object to which the audit comes. -/
theorem warning_located (formats : FormatRegistry) {schema : Value} (hs : schema.UniqueNames) :
    (∀ w ∈ audit formats schema, ∃ members x,
        schema.follow w.path = some (.object members) ∧
          schema.resolve w.path.pointer = some (w.path, .object members) ∧
          Members.get? members w.keyword = some x ∧ memberFlaw? formats w.keyword x = some w.flaw) ∧
      ((audit formats schema).map fun w => (w.path, w.keyword)).Nodup ∧
      ∀ path name,
        (∃ w ∈ audit formats schema, w.kind = .unrecognizedKeyword ∧ w.path = path ∧ w.keyword = name) ↔
          ∃ members, SchemaPlace schema path members ∧ name ∈ members.map Prod.fst ∧
            Keyword.isRecognized name = false := by
  refine ⟨fun w hw => ?_, ?_, fun path name => unrecognized_iff⟩
  · obtain ⟨members, place, x, hmem, hflaw⟩ := mem_audit_iff.mp hw
    have hfollow := place.follow hs
    have hnames := (Value.uniqueNames_object.mp (place.uniqueNames hs)).1
    exact ⟨members, x, hfollow, Value.resolve_pointer hfollow, Members.get?_of_mem hnames hmem, hflaw⟩
  · rw [List.Nodup, List.pairwise_map]
    exact (audit_inOrder formats schema).imp fun h => h.location_ne hs

/-- A schema whose members are called like keywords and like pointers. -/
def crossedSchema : Value :=
  .object
    [("properties", .object
        [("properties", .object [("a/b", .null), ("properties", .object [("", .object [("~0", .null)])])]),
          ("~1/items", .object [("minimum", .string "0")])]),
      ("items", .object [("additionalProperties", .object [("items/", .null), ("items", .array [])])]),
      ("~/", .null)]

theorem crossedSchema_uniqueNames : crossedSchema.UniqueNames := by
  simp [crossedSchema, or_imp, forall_and]

theorem warning_located_crossed :
    crossedSchema.UniqueNames ∧
      (∀ w ∈ audit .empty crossedSchema, ∃ members x,
          crossedSchema.follow w.path = some (.object members) ∧
            crossedSchema.resolve w.path.pointer = some (w.path, .object members) ∧
            Members.get? members w.keyword = some x ∧ memberFlaw? .empty w.keyword x = some w.flaw) ∧
        ((audit .empty crossedSchema).map fun w => (w.path, w.keyword)).Nodup ∧
        ∀ path name,
          (∃ w ∈ audit .empty crossedSchema,
              w.kind = .unrecognizedKeyword ∧ w.path = path ∧ w.keyword = name) ↔
            ∃ members, SchemaPlace crossedSchema path members ∧ name ∈ members.map Prod.fst ∧
              Keyword.isRecognized name = false :=
  ⟨crossedSchema_uniqueNames, warning_located .empty crossedSchema_uniqueNames⟩

-- keywords, names like keywords, and names with slashes and tildes on the way
example : (audit .empty crossedSchema).map (fun w => (w.path.pointer, w.keyword)) =
    [("", "~/"), ("/properties/properties", "a/b"), ("/properties/properties/properties/", "~0"),
      ("/properties/~01~1items", "minimum"), ("/items/additionalProperties", "items/"),
      ("/items/additionalProperties", "items")] := rfl

end JsonSchema
