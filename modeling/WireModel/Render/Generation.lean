import WireModel.Render.JavaClass
import WireModel.Render.PythonClass
import WireModel.Schema.Collection

/-!
Generating the classes of a schema, or of the types of a model. Either all classes are generated or
none.
-/

namespace WireModel

def Target.generateEntity : Target → Schema.Entity → Except GenerationError GeneratedClass
  | .java => Render.Java.generate
  | .python => Render.Python.generate

def Schema.generate (schema : Schema) (target : Target) :
    Except GenerationError (List GeneratedClass) := do
  (← schema.distinctEntities).mapM target.generateEntity

/-- The classes that some types need. -/
def generate (target : Target) (model : Model) (types : List HostType) :
    Resolving (List GeneratedClass) := do
  (← Schema.ofTypes target model types).generate target

end WireModel
