import StructuredIL.Tree.Text

/-!
# The C that trees are lowered to

A small part of C, as data: the expressions, statements and declarations, and a file with one
function. What has no counterpart in C is still lowered, to a diagnostic, which stands in the place
of the expression or statement it replaces and is printed as it is.

Printing never adds parentheses, and puts no indentation: parts are separated by single spaces, the
statements of a block and the blocks of a container by line ends. So the text of a statement is
a plain recursion on it, and every question about layout is answered here.
-/

namespace StructuredIL.C

/-! ### Expressions -/

/-- The comparisons that C code is generated for. -/
inductive Relation where
  /-- Greater or equal. -/
  | atLeast
  /-- Greater. -/
  | greater
  /-- Less. -/
  | less
  /-- Equal. -/
  | equal
  deriving DecidableEq, Repr

/-- How C writes a comparison. -/
def Relation.symbol : Relation → String
  | .atLeast => ">="
  | .greater => ">"
  | .less => "<"
  | .equal => "=="

/-- An expression. -/
inductive Expr where
  /-- An integer. -/
  | constant (value : Int)
  /-- A variable. -/
  | variableName (name : Text)
  /-- A sum. -/
  | sum (left right : Expr)
  /-- A comparison. -/
  | relation (relation : Relation) (left right : Expr)
  /-- What could not be lowered. -/
  | diagnostic (text : Text)
  deriving DecidableEq, Repr, Inhabited

/-- The text of an expression. -/
def Expr.text : Expr → Text
  | .constant value => toString value
  | .variableName name => name
  | .sum l r => l.text ++ " + " ++ r.text
  | .relation rel l r => l.text ++ " " ++ rel.symbol ++ " " ++ r.text
  | .diagnostic text => text

/-! ### Statements -/

/-- A statement. -/
inductive Stmt where
  /-- An assignment to a variable. -/
  | assign (name : Text) (value : Expr)
  /-- Goes to the next round of the innermost loop. -/
  | nextRound
  /-- Goes out of the innermost loop. -/
  | exitLoop
  /-- Goes out of the function. -/
  | exitFunction
  /-- Prints an integer on a line. -/
  | print (value : Expr)
  /-- A conditional without a second arm. -/
  | ifThen (condition : Expr) (yes : Stmt)
  /-- A conditional with two arms. -/
  | ifElse (condition : Expr) (yes no : Stmt)
  /-- A scope. -/
  | scope (parts : List Stmt)
  /-- An endless loop. -/
  | loop (parts : List Stmt)
  /-- Statements one after the other; the empty statement, if there are none. -/
  | sequence (parts : List Stmt)
  /-- What could not be lowered. -/
  | diagnostic (text : Text)
  deriving Inhabited

namespace Stmt

/-- Texts on lines of their own. -/
def onLines (texts : List Text) : Text := Text.joined "\n" texts

mutual
/-- The text of a statement. -/
def text : Stmt → Text
  | assign name value => name ++ " = " ++ value.text ++ ";"
  | nextRound => "continue;"
  | exitLoop => "break;"
  | exitFunction => "return;"
  | print value => "printf(\"%d\\n\", " ++ value.text ++ ");"
  | ifThen c yes => "if (" ++ c.text ++ ") \x7b " ++ yes.text ++ " \x7d"
  | ifElse c yes no =>
    "if (" ++ c.text ++ ") \x7b " ++ yes.text ++ " \x7d else \x7b " ++ no.text ++ " \x7d"
  | scope parts => "\x7b " ++ onLines (texts parts) ++ " \x7d"
  | loop parts => "while (1) \x7b " ++ onLines (texts parts) ++ " \x7d"
  | sequence parts => if parts.isEmpty then ";" else onLines (texts parts)
  | diagnostic text => text

/-- The texts of some statements. -/
def texts : List Stmt → List Text
  | [] => []
  | s :: rest => s.text :: texts rest
end

end Stmt

/-! ### Declarations and files -/

/-- The types of C variables. -/
inductive CType where
  /-- An integer of 32 bits. -/
  | int32
  /-- A truth value. -/
  | bool
  deriving DecidableEq, Repr

/-- How C writes a type. -/
def CType.text : CType → String
  | .int32 => "int32_t"
  | .bool => "bool"

/-- A declaration. -/
inductive Declaration where
  /-- A variable. -/
  | declares (type : CType) (name : Text)
  /-- What could not be lowered. -/
  | diagnostic (text : Text)
  deriving DecidableEq, Repr

/-- The text of a declaration. -/
def Declaration.text : Declaration → Text
  | .declares type name => type.text ++ " " ++ name ++ ";"
  | .diagnostic text => text

/-- A file with one function. -/
structure SourceFile where
  /-- The name of the function. -/
  name : Text
  /-- Its variables. -/
  declarations : List Declaration
  /-- Its body. -/
  body : Stmt

namespace SourceFile

/-- The headers that the generated code needs. -/
def headers : List String := ["stdint.h", "stdbool.h", "stdio.h"]

/-- The lines before the declarations: the headers, an empty line and the front of the function. -/
def opening (file : SourceFile) : List Text :=
  headers.map (fun h ↦ Text.ofString s!"#include <{h}>")
    ++ [Text.ofString "", "void " ++ file.name ++ "() \x7b"]

/-- The parts of a file that stand on lines of their own. -/
def lines (file : SourceFile) : List Text :=
  file.opening ++ file.declarations.map Declaration.text ++ [file.body.text, "\x7d"]

/-- The text of a file, without a line end at its end. -/
def text (file : SourceFile) : Text := Text.joined "\n" file.lines

end SourceFile

end StructuredIL.C
