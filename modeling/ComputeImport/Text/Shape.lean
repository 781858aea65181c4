import ComputeImport.Text.Quoted

/-!
# The shape of a value, on one line or on many

Values are shown for inspection as a tree of named parts.  A `Shape` is that tree.  It is written
either on one line, or with one part a line, each level four blanks further in and every part
followed by a comma.
-/

namespace ComputeImport.Text

/-- What a value looks like to someone who inspects it. -/
inductive Shape where
  /-- A value without parts, already written out. -/
  | atom (text : String)
  /-- A named value with unnamed parts. -/
  | tuple (name : String) (parts : List Shape)
  /-- A named value with named parts. -/
  | record (name : String) (parts : List (String × Shape))
  /-- A sequence of values. -/
  | sequence (items : List Shape)

namespace Shape

/-- A number, in decimal. -/
def number (n : Nat) : Shape :=
  atom (toString n)

/-- A truth value. -/
def flag (b : Bool) : Shape :=
  atom (if b then "true" else "false")

/-- A text, quoted. -/
def text (s : String) : Shape :=
  atom (quoted s)

/-- A value that may be absent. -/
def optional : Option Shape → Shape
  | none => atom "None"
  | some part => tuple "Some" [part]

mutual

/-- The shape on one line. -/
def inline : Shape → String
  | atom text => text
  | tuple name parts => name ++ "(" ++ inlineItems true parts ++ ")"
  | record name [] => name
  | record name (part :: parts) => name ++ " \x7b " ++ inlineFields true (part :: parts) ++ " \x7d"
  | sequence items => "[" ++ inlineItems true items ++ "]"

/-- Items on one line, a comma before each but the first. -/
def inlineItems (first : Bool) : List Shape → String
  | [] => ""
  | item :: items => (if first then "" else ", ") ++ item.inline ++ inlineItems false items

/-- Named parts on one line, a comma before each but the first. -/
def inlineFields (first : Bool) : List (String × Shape) → String
  | [] => ""
  | (name, part) :: parts =>
      (if first then "" else ", ") ++ name ++ ": " ++ part.inline ++ inlineFields false parts

end

/-- The blanks in front of a line at some depth. -/
def margin (depth : Nat) : String :=
  String.ofList (List.replicate (4 * depth) ' ')

mutual

/-- The shape on many lines; its first line is not indented, its last one stands at `depth`. -/
def indented (depth : Nat) : Shape → String
  | atom text => text
  | tuple name [] => name
  | tuple name (part :: parts) =>
      name ++ "(\n" ++ indentedItems (depth + 1) (part :: parts) ++ margin depth ++ ")"
  | record name [] => name
  | record name (part :: parts) =>
      name ++ " \x7b\n" ++ indentedFields (depth + 1) (part :: parts) ++ margin depth ++ "\x7d"
  | sequence [] => "[]"
  | sequence (item :: items) =>
      "[\n" ++ indentedItems (depth + 1) (item :: items) ++ margin depth ++ "]"

/-- Items one a line, each followed by a comma. -/
def indentedItems (depth : Nat) : List Shape → String
  | [] => ""
  | item :: items =>
      margin depth ++ item.indented depth ++ ",\n" ++ indentedItems depth items

/-- Named parts one a line, each followed by a comma. -/
def indentedFields (depth : Nat) : List (String × Shape) → String
  | [] => ""
  | (name, part) :: parts =>
      margin depth ++ name ++ ": " ++ part.indented depth ++ ",\n" ++ indentedFields depth parts

end

/-- The shape as a text: one part a line if `spread`, else on one line. -/
def write (spread : Bool) (shape : Shape) : String :=
  if spread then shape.indented 0 else shape.inline

end Shape

end ComputeImport.Text
