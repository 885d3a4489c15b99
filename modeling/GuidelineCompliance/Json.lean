import GuidelineCompliance.Report

/-! Reports as JSON, laid out over several lines. -/

namespace GuidelineCompliance

inductive Json where
  | null
  | bool (b : Bool)
  | num (n : Nat)
  | str (s : String)
  | arr (items : List Json)
  | obj (fields : List (String × Json))

namespace Json

def ofOption {α : Type} (f : α → Json) : Option α → Json
  | some a => f a
  | none => null

def controlDigits (n : Nat) : String :=
  String.ofList [Nat.digitChar (n / 16), Nat.digitChar (n % 16)]

/-- A character in a quoted text. Quotes, backslashes and control characters are escaped. -/
def quoteChar (c : Char) : String :=
  match c with
  | '"' => "\\\""
  | '\\' => "\\\\"
  | '\x08' => "\\b"
  | '\x0c' => "\\f"
  | '\n' => "\\n"
  | '\r' => "\\r"
  | '\t' => "\\t"
  | _ => if c.val < 0x20 then "\\u00" ++ controlDigits c.toNat else c.toString

def quote (s : String) : String := "\"" ++ String.join (s.toList.map quoteChar) ++ "\""

def indent (depth : Nat) : String := "\n" ++ String.ofList (List.replicate (2 * depth) ' ')

mutual

def layout (depth : Nat) : Json → String
  | null => "null"
  | bool b => if b then "true" else "false"
  | num n => toString n
  | str s => quote s
  | arr [] => "[]"
  | arr (item :: items) =>
    "[" ++ indent (depth + 1) ++ layout (depth + 1) item ++ layoutItems (depth + 1) items ++
      indent depth ++ "]"
  | obj [] => "\x7b\x7d"
  | obj ((name, value) :: fields) =>
    "\x7b" ++ indent (depth + 1) ++ quote name ++ ": " ++ layout (depth + 1) value ++
      layoutFields (depth + 1) fields ++ indent depth ++ "\x7d"

def layoutItems (depth : Nat) : List Json → String
  | [] => ""
  | item :: items => "," ++ indent depth ++ layout depth item ++ layoutItems depth items

def layoutFields (depth : Nat) : List (String × Json) → String
  | [] => ""
  | (name, value) :: fields =>
    "," ++ indent depth ++ quote name ++ ": " ++ layout depth value ++ layoutFields depth fields

end

def text (j : Json) : String := layout 0 j

end Json

def Deviation.toJson (d : Deviation) : Json :=
  .obj [("reference", .ofOption .str d.reference), ("link", .ofOption .str d.link)]

def Guideline.toJson (g : Guideline) : Json :=
  .obj [
    ("id", .str g.id),
    ("category", .str g.category.name),
    ("recategorization", .ofOption (.str ·.name) g.standing.recategorization),
    ("status", .str g.status.name),
    ("deviations", .arr (g.standing.deviations.map Deviation.toJson))]

def Report.toJson (r : Report) : Json :=
  .obj [
    ("project_name", .ofOption .str r.projectName),
    ("software_version", .ofOption .str r.softwareVersion),
    ("misra_version", .str r.edition),
    ("tool", .str r.tool),
    ("compliant", .bool r.compliant),
    ("summary", .str r.summary),
    ("notes", .ofOption .str r.notes),
    ("error_code", .num r.code.bits.toNat),
    ("guidelines", .arr (r.guidelines.map Guideline.toJson))]

end GuidelineCompliance
