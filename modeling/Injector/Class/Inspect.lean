import Injector.Class.Basic
import Injector.Text.Record

/-!
# Diagnostic forms of class members

Accessors are not shown; a marker shows its type alone.
-/

set_option autoImplicit false

namespace Injector

variable {P : Platform}

def Visibility.display : Visibility → String
  | anyone => "public"
  | subclasses => "protected"
  | package => "package"
  | declarer => "private"

def Visibility.inspect : Visibility → String
  | anyone => "Public"
  | subclasses => "Protected"
  | package => "Package"
  | declarer => "Private"

def Marker.inspect (m : Marker P) : String := m.key.display

def inspectMarkers (ms : List (Marker P)) : String := Text.listed (ms.map (·.inspect))

def Parameter.inspect (p : Parameter P) : String :=
  Text.record "ParameterDescriptor"
    [("name", Text.quoted p.name), ("ty", p.type.inspect), ("optional", Text.truth p.optional),
     ("variadic", Text.truth p.variadic), ("markers", inspectMarkers p.markers)]

def inspectParams (ps : List (Parameter P)) : String := Text.listed (ps.map (·.inspect))

def Constructor.inspect (c : Constructor P) : String :=
  Text.record "ConstructorDescriptor"
    [("visibility", c.visibility.inspect), ("params", inspectParams c.params),
     ("markers", inspectMarkers c.markers)]

def Field.inspect (f : Field P) : String :=
  Text.record "FieldDescriptor"
    [("name", Text.quoted f.name), ("ty", f.type.inspect), ("visibility", f.visibility.inspect),
     ("is_static", Text.truth f.isStatic), ("markers", inspectMarkers f.markers)]

def Method.inspect (m : Method P) : String :=
  Text.record "MethodDescriptor"
    [("name", Text.quoted m.name), ("visibility", m.visibility.inspect),
     ("is_static", Text.truth m.isStatic), ("is_default", Text.truth m.isDefault),
     ("params", inspectParams m.params),
     ("returns", Text.optional (m.returns.map (·.inspect))),
     ("markers", inspectMarkers m.markers)]

end Injector
