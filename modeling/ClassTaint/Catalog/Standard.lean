namespace ClassTaint.Catalog

/-! The catalog that comes with the program: immutable classes of the standard
library, and classes whose values are safe. -/

def standardLines : List String :=
  ["# Default class taint summaries: <type descriptor>: [STATE][#IMMUTABLE]",
    "classes:",
    "  Ljava/lang/Boolean;: SAFE#IMMUTABLE",
    "  Ljava/lang/Byte;: SAFE#IMMUTABLE",
    "  Ljava/lang/Character;: SAFE#IMMUTABLE",
    "  Ljava/lang/Short;: SAFE#IMMUTABLE",
    "  Ljava/lang/Integer;: SAFE#IMMUTABLE",
    "  Ljava/lang/Long;: SAFE#IMMUTABLE",
    "  Ljava/lang/Float;: SAFE#IMMUTABLE",
    "  Ljava/lang/Double;: SAFE#IMMUTABLE",
    "  Ljava/math/BigInteger;: SAFE#IMMUTABLE",
    "  Ljava/math/BigDecimal;: SAFE#IMMUTABLE",
    "  Ljava/util/UUID;: SAFE#IMMUTABLE",
    "  Ljava/lang/String;: \"#IMMUTABLE\"",
    "  Ljava/util/concurrent/atomic/AtomicBoolean;: SAFE",
    "  Ljava/util/concurrent/atomic/AtomicInteger;: SAFE",
    "  Ljava/util/concurrent/atomic/AtomicLong;: SAFE",
    "  Ljava/util/Date;: SAFE"]

def standardText : String :=
  String.join (standardLines.map (· ++ "\n"))

end ClassTaint.Catalog
