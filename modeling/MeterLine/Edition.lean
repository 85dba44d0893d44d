/-!
# Edition

How the adapter introduces itself.
-/

namespace MeterLine

def edition : String := "0.1.0"

def introduction : String :=
  "Serial Modbus Adapter v" ++ edition

end MeterLine
