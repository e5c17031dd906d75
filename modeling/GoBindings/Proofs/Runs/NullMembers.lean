import GoBindings.Proofs.Runs.Outcome

/-!
# Null among the members of a union

The members of a union are gone through three times: for their types, for their declarations, and to
see whether null is among them. The main statement: wherever null is put among the members, nothing
changes but that the union allows it. The same is announced, the same failure comes first, and the
record is the same in all else.
-/

namespace GoBindings

/-- The composition with the literal null put at a position among its members, or behind them where
they are fewer. -/
def Composition.insertNull (composition : Composition) (position : Nat) : Composition :=
  { composition with
    members := composition.members.take position ++ .primitive "null" ::
      composition.members.drop position }

/-- The record of a model that allows null. -/
def GoModel.orNull (record : GoModel) : GoModel := { record with isNullable := true }

namespace Composition

variable (composition : Composition) (position : Nat)

/-- The members other than null stay. -/
theorem filter_insertNull :
    (composition.insertNull position).members.filter (!·.isNull) =
      composition.members.filter (!·.isNull) := by
  have dropped (rest : List Schema) :
      (Schema.primitive "null" :: rest).filter (!·.isNull) = rest.filter (!·.isNull) :=
    List.filter_cons_of_neg (by decide)
  rw [insertNull, List.filter_append, dropped, ← List.filter_append, List.take_append_drop]

/-- Null is among the members. -/
theorem any_isNull_insertNull :
    (composition.insertNull position).members.any Schema.isNull = true :=
  List.any_eq_true.2 ⟨.primitive "null", List.mem_append_right _ List.mem_cons_self, rfl⟩

end Composition

/-- Null has no declaration among those of the members. -/
theorem TypeResolver.memberDeclarations_insertNull (resolver : TypeResolver)
    (composition : Composition) (position : Nat) :
    resolver.memberDeclarations (composition.insertNull position).members =
      resolver.memberDeclarations composition.members := by
  rw [memberDeclarations, composition.filter_insertNull position]
  rfl

namespace Generator

variable (generator : Generator)

/-- The union with null as a further value. -/
def Union.orNull (union : Union) : Union := { union with isNullable := true }

/-- The union of a composition of which not every member needs to hold. -/
def unionOf (composition : Composition) : Report InvalidMapping Union := do
  let types ← generator.types.resolveAll (composition.members.filter (!·.isNull))
  let declarations ← generator.types.memberDeclarations composition.members
  return { kind := composition.kind, types, declarations
           isNullable := composition.members.any Schema.isNull }

/-- A model with such a composition is its union. -/
theorem union?_of_kind {composition : Composition} (union : composition.kind ≠ .allOf) :
    generator.union? (some composition) = some <$> generator.unionOf composition := by
  simp only [union?, if_neg union, splitNull, unionOf, map_bind, map_pure]

/-- A union with null put among its members is the same union, which allows null. -/
theorem unionOf_insertNull (composition : Composition) (position : Nat) :
    generator.unionOf (composition.insertNull position) =
      Union.orNull <$> generator.unionOf composition := by
  simp only [unionOf, composition.filter_insertNull position,
    composition.any_isNull_insertNull position,
    generator.types.memberDeclarations_insertNull composition position, map_bind, map_pure]
  rfl

/-- Null is neither among the types that need imports nor does it call any code. -/
theorem importsOf_orNull (model : Model) (composition : Option Composition)
    (fields : List GoField) (union : Union) :
    generator.importsOf { model with composition } fields (some union.orNull) =
      generator.importsOf model fields (some union) := rfl

/-- A union that allows null has the same declarations. -/
theorem declarationsOf_orNull (kind : CompositionKind) (union : Union) :
    declarationsOf kind (some union.orNull) = declarationsOf kind (some union) := rfl

/-- Whatever is registered and whatever the settings, a model of a union of which null is put among
the members, at any position, has the same outcome as the model: the same announcements and the same
failure, or the same record but that it allows null. -/
theorem processModel_insertNull {model : Model} {composition : Composition}
    (combined : model.composition = some composition) (union : composition.kind ≠ .allOf)
    (position : Nat) :
    generator.processModel { model with composition := some (composition.insertNull position) } =
      GoModel.orNull <$> generator.processModel model := by
  have joined : generator.union? model.composition = some <$> generator.unionOf composition := by
    rw [combined, union?_of_kind generator union]
  have widened : generator.union? (some (composition.insertNull position)) =
      (some ∘ Union.orNull) <$> generator.unionOf composition := by
    have kept : (composition.insertNull position).kind ≠ .allOf := union
    rw [union?_of_kind generator kept, unionOf_insertNull, Functor.map_map]
    rfl
  simp only [processModel, joined, widened, map_bind, bind_map_left, map_pure, Function.comp_apply,
    importsOf_orNull, declarationsOf_orNull]
  rfl

/-- A union of a date and a text with null between them has the record of the union without it, but
that it allows null. -/
theorem null_between_members :
    let composition : Composition := {
      kind := .anyOf, modelName := none, members := [.primitive "date", .primitive "string"] }
    let model : Model := { name := "Birth", composition := some composition }
    let widened : Composition := { composition with
      members := [.primitive "date", .primitive "null", .primitive "string"] }
    composition.kind ≠ .allOf ∧ ∃ record,
      ((plain {}).processModel model).result = .ok record ∧ record.isNullable = false ∧
      ((plain {}).processModel { model with composition := some widened }).result =
        .ok { record with isNullable := true } := by
  intro composition model widened
  have combined : model.composition = some composition := rfl
  have union : composition.kind ≠ .allOf := by decide
  have same := (plain {}).processModel_insertNull combined union 1
  have put : composition.insertNull 1 = widened := rfl
  refine ⟨union, _, rfl, rfl, ?_⟩
  rw [← put, same]
  rfl

end Generator

end GoBindings
