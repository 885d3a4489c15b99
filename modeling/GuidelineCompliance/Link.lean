/-! Links in comments. A comment may not hold two slashes in a row, so the slashes behind a
scheme are written once or left out, and put back here. -/

namespace GuidelineCompliance.Link

/-- Go to the first colon that is not followed by two slashes, and give it two. -/
def restoreChars : List Char → List Char
  | [] => []
  | ':' :: '/' :: '/' :: rest => ':' :: '/' :: restoreChars ('/' :: rest)
  | ':' :: '/' :: rest => ':' :: '/' :: '/' :: rest
  | ':' :: rest => ':' :: '/' :: '/' :: rest
  | c :: rest => c :: restoreChars rest

def restore (link : String) : String := String.ofList (restoreChars link.toList)

end GuidelineCompliance.Link
