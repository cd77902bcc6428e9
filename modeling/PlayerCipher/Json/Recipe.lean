import PlayerCipher.Json.Reader
import PlayerCipher.Operation

/-! Recipes as JSON.
A recipe is an array of its operations. A reversal is the text `reverse`; the other
operations are objects with one field, whose value is the index. Reading also takes an object
with the field `reverse` and no value. -/

namespace PlayerCipher

namespace Operation

def toJson : Operation → Json
  | .swap index => .obj [("swap", .natural index)]
  | .reverse => .str "reverse"
  | .removeAt index => .obj [("remove_at", .natural index)]

def ofJson? : Json → Option Operation
  | .str name => if name = "reverse" then some .reverse else none
  | .obj [(name, .null)] => if name = "reverse" then some .reverse else none
  | .obj [(name, .natural index)] =>
    if Text.indexLimit ≤ index then none
    else if name = "swap" then some (.swap index)
    else if name = "remove_at" then some (.removeAt index)
    else none
  | _ => none

end Operation

namespace Recipe

def toJson (recipe : Recipe) : Json :=
  .arr (recipe.operations.map Operation.toJson)

def ofJson? : Json → Option Recipe
  | .arr items => (items.mapM Operation.ofJson?).map Recipe.mk
  | _ => none

def parse? (text : String) : Option Recipe :=
  (Json.parse? text).bind ofJson?

end Recipe

end PlayerCipher
