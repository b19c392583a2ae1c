/-
Prints the published definition of the resource.
-/
import ControlPlane.Crd.Definition
import ControlPlane.Yaml

def main : IO Unit :=
  IO.print (ControlPlane.Yaml.document ControlPlane.Crd.definition)
