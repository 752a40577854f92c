import SchemaDecls.Failure

/-! Texts that are written piece by piece. -/
namespace SchemaDecls

/-- Writes behind the text that is there, unless a piece is refused: then nothing is written. -/
abbrev Writer := StateT String (Except WriterFault)

def writeLine (line : String) : Writer Unit := modify fun text => text ++ line ++ "\n"

end SchemaDecls
