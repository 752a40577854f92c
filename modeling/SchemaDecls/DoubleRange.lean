/-! The range of double-precision numbers. -/
namespace SchemaDecls

/-- Half a unit above the largest double: from here on numbers are rounded to infinity. -/
def doubleOverflow : Nat := Nat.pow 2 1024 - Nat.pow 2 970

end SchemaDecls
