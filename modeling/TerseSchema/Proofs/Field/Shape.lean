import TerseSchema.Field.Shape
import Mathlib.Tactic.Common
/-!
# Shapes of fields

The shapes of the fields that a schema has places of its own for, looked up in
the table of fields once.
-/

namespace TerseSchema

def ownShapes : Entries Shape :=
  [("type", .string), ("description", .string), ("enum", .any), ("properties", .schemaMap),
    ("items", .schema), ("required", .strings), ("additionalProperties", .schemaOrBool)]

theorem ofField?_of_mem_ownShapes : ∀ e ∈ ownShapes, Shape.ofField? e.1 = some e.2 := by
  decide +kernel

theorem ofField?_type : Shape.ofField? "type" = some .string :=
  ofField?_of_mem_ownShapes (_, _) (.head _)

theorem ofField?_description : Shape.ofField? "description" = some .string :=
  ofField?_of_mem_ownShapes (_, _) (.tail _ (.head _))

theorem ofField?_enum : Shape.ofField? "enum" = some .any :=
  ofField?_of_mem_ownShapes (_, _) (.tail _ (.tail _ (.head _)))

theorem ofField?_properties : Shape.ofField? "properties" = some .schemaMap :=
  ofField?_of_mem_ownShapes (_, _) (.tail _ (.tail _ (.tail _ (.head _))))

theorem ofField?_items : Shape.ofField? "items" = some .schema :=
  ofField?_of_mem_ownShapes (_, _) (.tail _ (.tail _ (.tail _ (.tail _ (.head _)))))

theorem ofField?_required : Shape.ofField? "required" = some .strings :=
  ofField?_of_mem_ownShapes (_, _) (.tail _ (.tail _ (.tail _ (.tail _ (.tail _ (.head _))))))

theorem ofField?_additionalProperties :
    Shape.ofField? "additionalProperties" = some .schemaOrBool :=
  ofField?_of_mem_ownShapes (_, _)
    (.tail _ (.tail _ (.tail _ (.tail _ (.tail _ (.tail _ (.head _)))))))

end TerseSchema
