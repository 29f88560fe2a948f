import SimControl.Catalog.Definition

/-!
# Accessibility

Descriptions of what is on the screen.
-/

namespace SimControl.Catalog.Accessibility

def describeElements : Entry where
  name := "describe elements"
  kind := .describeElements
  description := "Describes all accessibility elements on the screen"
  patterns :=
    [r"describir\s+(todos\s+los\s+)?elementos",
      r"describe\s+(all\s+)?(the\s+)?(screen\s+)?elements",
      r"mostrar\s+elementos\s+de\s+accesibilidad",
      r"show\s+accessibility\s+elements"]
  required := []
  optional := ["sessionId"]
  parameters := [sessionId]
  examples :=
    ["describir todos los elementos",
      "describe all elements",
      "mostrar elementos de accesibilidad",
      "show accessibility elements"]

def describePoint : Entry where
  name := "describe point"
  kind := .describePoint
  description := "Describes the accessibility element at a specific point"
  patterns :=
    [r"describir\s+(el\s+)?punto\s+(?P<x>\d+)\s*,\s*(?P<y>\d+)",
      r"describe\s+(the\s+)?point\s+(?P<x>\d+)\s*,\s*(?P<y>\d+)",
      r"qué\s+hay\s+en\s+(?P<x>\d+)\s*,\s*(?P<y>\d+)",
      r"what\s+is\s+at\s+(?P<x>\d+)\s*,\s*(?P<y>\d+)"]
  required := ["x", "y"]
  optional := ["sessionId"]
  parameters :=
    [{ name := "x", type := .number, extractor := some .integer },
      { name := "y", type := .number, extractor := some .integer },
      sessionId]
  examples :=
    ["describir punto 100, 200",
      "describe point 150, 300",
      "qué hay en 200, 400",
      "what is at 20, 40"]

def entries : List Entry :=
  [describeElements, describePoint]

end SimControl.Catalog.Accessibility
