import GuidelineCompliance.Catalog

/-! The summary of a run: one sentence on violations and one on deviations, each with the number of
guidelines in every category that is concerned. -/

namespace GuidelineCompliance

namespace Summary

/-- Items as in `a`, `a and b` or `a, b and c`. -/
def joinList : List String → String
  | [] => ""
  | [a] => a
  | [a, b] => a ++ " and " ++ b
  | a :: b :: c :: items => a ++ ", " ++ joinList (b :: c :: items)

def count (c : Catalog) (status : Status) (category : Category) : Nat :=
  c.guidelines.countP fun g => g.status = status && g.activeCategory = category

def counted : List (Category × String) :=
  [(.mandatory, "mandatory"), (.required, "required"), (.advisory, "advisory")]

def countText (n : Nat) (category : String) : String :=
  toString n ++ " " ++ category ++ (if n = 1 then " guideline" else " guidelines")

/-- The sentence for a status. A category without any guideline is left out. -/
def sentence (c : Catalog) (status : Status) (noun : String) : String :=
  let parts := counted.filterMap fun (category, word) =>
    let n := count c status category
    if n = 0 then none else some (countText n word)
  if parts.isEmpty then "There were no " ++ noun ++ "."
  else "There were " ++ noun ++ " of " ++ joinList parts ++ "."

end Summary

def Catalog.summary (c : Catalog) : String :=
  Summary.sentence c .violations "violations" ++ " " ++
    Summary.sentence c .deviations "deviations"

end GuidelineCompliance
