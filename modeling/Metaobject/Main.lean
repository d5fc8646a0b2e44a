import Metaobject.Inspector.Report

/-!
# The inspector as a program

Prints the report on its command line and ends with the report's code.
-/

def main (arguments : List String) : IO UInt32 := do
  let r := Metaobject.Inspector.report arguments
  IO.print r.out
  IO.eprint r.err
  return UInt32.ofNat r.code
